import RelationalMapper.Proofs.Channel.Quiet
import RelationalMapper.Proofs.Channel.Use
import RelationalMapper.Proofs.Row

/-! # Labels that differ in case only

Of equal labels the first one counts when rows are fetched. When a row is read into an entity every
label is matched on its own, so that the last one that leads to a property counts: the label that is
equal to its column gives way to one behind it that is equal only without case. -/

namespace RelationalMapper

open RelationalMapper.Action

/-! ## Equal labels -/

namespace Entries

variable {β : Type}

theorem get?_append (first second : Entries β) (name : String) :
    get? (first ++ second) name = (first.get? name).or (second.get? name) := by
  induction first with
  | nil => rfl
  | cons entry rest ih =>
      obtain ⟨n, b⟩ := entry
      rw [List.cons_append, get?, get?, ih]
      split <;> rfl

/-- Under every name there is what first came under it, and nothing else. -/
theorem ofFirst_spec (pairs : List (String × β)) :
    (ofFirst pairs).names.Nodup ∧ ∀ name, (ofFirst pairs).get? name = get? pairs name := by
  induction pairs using List.reverseRecOn with
  | nil => exact ⟨List.nodup_nil, fun _ => rfl⟩
  | append_singleton pairs pair ih =>
      obtain ⟨n, b⟩ := pair
      obtain ⟨hnodup, hget⟩ := ih
      have hstep : ofFirst (pairs ++ [(n, b)]) =
          if has (ofFirst pairs) n then ofFirst pairs else (ofFirst pairs).put n b := by
        rw [ofFirst, List.foldl_append]
        rfl
      rw [hstep]
      by_cases hn : has (ofFirst pairs) n = true
      · rw [if_pos hn]
        refine ⟨hnodup, fun name => ?_⟩
        rw [get?_append, hget]
        by_cases hname : n = name
        · obtain ⟨first, hfirst⟩ := (has_iff_exists _ _).mp hn
          rw [hget, hname] at hfirst
          rw [hfirst, Option.some_or]
        · rw [get?, if_neg hname, get?_nil, Option.or_none]
      · rw [if_neg hn]
        refine ⟨nodup_names_put hnodup n b, fun name => ?_⟩
        rw [put_eq_append (mt (has_iff_mem_names _ _).mpr hn), get?_append, get?_append, hget]

end Entries

namespace Channel

theorem rows_of_fetchRows {answer : Response} {handler : Failure → Action Channel (List Row)}
    (hhandler : ∀ cause ch rows ch', (handler cause).perform ch ≠ (.ok rows, ch'))
    {ch ch' : Channel} {rows : List Row}
    (h : (tryCatch (fetchRows answer) handler).perform ch = (.ok rows, ch')) :
    rows = rowsIn answer := by
  rw [perform_tryCatch, perform_fetchRows_eq] at h
  cases hcolumns : answer.columns with
  | none =>
      rw [hcolumns] at h
      rw [rowsIn, hcolumns]
      exact (Except.ok.inj (Prod.mk.inj h).1).symm
  | some columns =>
      cases hfault : answer.fetchFault with
      | none =>
          rw [hcolumns, hfault] at h
          exact (Except.ok.inj (Prod.mk.inj h).1).symm
      | some f =>
          rw [hcolumns, hfault] at h
          exact absurd h (hhandler _ _ _ _)

/-- A query that succeeds gives the rows of the driver's next answer. -/
theorem rows_of_executeQuery {ch ch' : Channel} {rows : List Row}
    (h : executeQuery.perform ch = (.ok rows, ch')) :
    rows = rowsIn ch.connection.driver.nextResponse := by
  rw [executeQuery_eq] at h
  obtain ⟨answer, sent, honce, hfinish⟩ := of_perform_bind_ok h
  obtain ⟨here, _, hget, honce⟩ := of_perform_bind_ok honce
  obtain ⟨hhere, rfl⟩ := Prod.mk.inj hget
  obtain rfl := Except.ok.inj hhere
  obtain ⟨params, _, hparams, honce⟩ := of_perform_bind_ok honce
  rw [perform_ofExcept] at hparams
  obtain ⟨-, rfl⟩ := Prod.mk.inj hparams
  rw [← ch.answer_of_transmit rfl honce]
  obtain ⟨there, _, -, hfinish⟩ := of_perform_bind_ok hfinish
  obtain ⟨fetched, _, hfetch, hfinish⟩ := of_perform_bind_ok hfinish
  have hfetched : fetched = rowsIn answer := by
    refine rows_of_fetchRows (fun cause ch rows ch' hthrown => ?_) hfetch
    obtain ⟨_, _, -, hthrown⟩ := of_perform_bind_ok hthrown
    rw [perform_throw] at hthrown
    cases (Prod.mk.inj hthrown).1
  obtain ⟨_, _, -, hfinish⟩ := of_perform_bind_ok hfinish
  simp only at hfinish
  split at hfinish
  · obtain ⟨_, _, -, hreturn⟩ := of_perform_bind_ok hfinish
    rw [perform_pure] at hreturn
    rw [← Except.ok.inj (Prod.mk.inj hreturn).1, hfetched]
  · rw [perform_pure] at hfinish
    rw [← Except.ok.inj (Prod.mk.inj hfinish).1, hfetched]

end Channel

/-! ## Entering a row -/

namespace Row

variable {m : TableMap} {p : String} {hint : Hint}

/-- What a column makes of a property, if its label leads to the property and its value is taken. -/
def taken? (m : TableMap) (p : String) (hint : Hint) (entry : String × Value) : Option Value :=
  if m.property? entry.1 = some p then (hint.convert entry.2).toOption else none

/-- What a column makes of a property, if that is a field. -/
def entered? (m : TableMap) (p : String) (entry : String × Value) : Option Value :=
  (m.fields.get? p).bind fun hint => taken? m p hint entry

theorem attribute?_enterColumn {e e' : Entity} {label : String} {value : Value} {c c' : Connection}
    (h : (enterColumn m e label value).perform c = (.ok e', c')) :
    e'.type = e.type ∧
      ∀ p, e'.attribute? p = (entered? m p (label, value)).or (e.attribute? p) := by
  unfold enterColumn at h
  unfold entered? taken?
  cases hproperty : m.property? label with
  | none =>
      -- The label leads to no property and is passed over.
      rw [hproperty] at h
      rw [← Except.ok.inj (Prod.mk.inj h).1]
      simp
  | some q =>
      rw [hproperty] at h
      obtain ⟨hint, c₁, hrequired, h⟩ := of_perform_bind_ok h
      rw [perform_ofExcept] at hrequired
      obtain ⟨hfound, rfl⟩ := Prod.mk.inj hrequired
      have hfield : m.fields.get? q = some hint := by
        cases hfield : m.fields.get? q with
        | none => simp [TableMap.requireField, hfield] at hfound
        | some hint' => simpa [TableMap.requireField, hfield] using hfound
      cases hconvert : hint.convert value with
      | ok w =>
          rw [hconvert, perform_pure] at h
          rw [← Except.ok.inj (Prod.mk.inj h).1]
          refine ⟨rfl, fun p => ?_⟩
          by_cases hq : q = p
          · subst hq
            simp [hfield, hconvert, Entity.attribute?, Entity.set, Entries.get?_put_self, Except.toOption]
          · simp [hq, e.attribute?_set_of_ne w (Ne.symm hq)]
      | error f =>
          have hkept : e' = e := by
            rw [hconvert] at h
            cases f with
            | outOfMemory => cases (Prod.mk.inj h).1
            | _ =>
                obtain ⟨_, _, -, hreturn⟩ := of_perform_bind_ok h
                rw [perform_pure] at hreturn
                exact (Except.ok.inj (Prod.mk.inj hreturn).1).symm
          refine ⟨congrArg Entity.type hkept, fun p => ?_⟩
          by_cases hq : q = p
          · subst hq
            simp [hkept, hfield, hconvert, Except.toOption]
          · simp [hkept, hq]

/-- The last value that is taken stays. -/
theorem attribute?_enterColumns {row : Row} {e e' : Entity} {c c' : Connection}
    (h : (row.foldlM (fun e (label, value) => enterColumn m e label value) e).perform c = (.ok e', c')) :
    e'.type = e.type ∧
      ∀ p, e'.attribute? p = (row.filterMap (entered? m p)).getLast?.or (e.attribute? p) := by
  induction row generalizing e c with
  | nil =>
      obtain ⟨he, -⟩ := Prod.mk.inj h
      rw [Except.ok.inj he]
      exact ⟨rfl, fun _ => rfl⟩
  | cons entry row ih =>
      obtain ⟨label, value⟩ := entry
      rw [List.foldlM_cons] at h
      obtain ⟨entered, c₁, hfirst, hrest⟩ := of_perform_bind_ok h
      obtain ⟨htype₁, hfirst⟩ := attribute?_enterColumn hfirst
      obtain ⟨htype, hrest⟩ := ih hrest
      refine ⟨htype.trans htype₁, fun p => ?_⟩
      rw [hrest, hfirst, List.filterMap_cons]
      cases entered? m p (label, value) with
      | none => rfl
      | some w => cases h : (row.filterMap (entered? m p)).getLast? <;> simp [List.getLast?_cons, h]

theorem get_enterColumns (hfield : m.fields.get? p = some hint) {row : Row} {e e' : Entity}
    {c c' : Connection}
    (h : (row.foldlM (fun e (label, value) => enterColumn m e label value) e).perform c = (.ok e', c')) :
    e'.get p = (row.filterMap (taken? m p hint)).getLast?.getD (e.get p) := by
  have hentered : entered? m p = taken? m p hint := by
    funext entry
    rw [entered?, hfield, Option.bind_some]
  rw [Entity.get, (attribute?_enterColumns h).2 p, hentered]
  cases (row.filterMap (taken? m p hint)).getLast? <;> rfl

end Row

/-! ## The label that is equal to its column -/

namespace TableMap

/-- A label that is no column itself, but is equal to one without case. -/
structure VariantOf (m : TableMap) (label column : String) : Prop where
  not_column : label ∉ m.columns.values
  lower_eq : Text.lower label = Text.lower column

theorem variantOf_of_property? {m : TableMap} (hnames : m.columns.names.Nodup) {p column label : String}
    (hp : (p, column) ∈ m.columns) (hlabel : label ≠ column) (h : m.property? label = some p) :
    m.VariantOf label column := by
  have hsingle : ∀ other, (p, other) ∈ m.columns → other = column := by
    intro other hother
    have hcolumn := Entries.get?_of_mem hnames hp
    exact Option.some.inj ((Entries.get?_of_mem hnames hother).symm.trans hcolumn)
  rcases Option.or_eq_some_iff.mp h with hexact | ⟨hnone, hloose⟩
  · exact absurd (hsingle label (propertyWhere?_eq_some_iff.mp hexact).mem) hlabel
  · refine ⟨fun hmem => ?_, ?_⟩
    · obtain ⟨entry, hentry, rfl⟩ := List.mem_map.mp hmem
      have hrefused := List.find?_eq_none.mp (Option.map_eq_none_iff.mp hnone) entry hentry
      simp at hrefused
    · obtain ⟨⟨p, other⟩, hfound, rfl⟩ := Option.map_eq_some_iff.mp hloose
      obtain rfl := hsingle other (List.mem_of_find?_eq_some hfound)
      exact (by simpa using List.find?_some hfound : Text.lower other = Text.lower label).symm

end TableMap

namespace Row

variable {m : TableMap} {row : Row} {e : Entity} {c c' : Connection}

theorem of_toEntity (h : (row.toEntity m).perform c = (.ok e, c')) :
    ∃ blank c₀, (row.foldlM (fun e (label, value) => enterColumn m e label value) blank).perform c₀ =
      (.ok e, c') := by
  obtain ⟨blank, c₀, -, h⟩ := of_perform_bind_ok h
  exact ⟨blank, c₀, h⟩

/-- A label that leads to a property was entered only because the property is a field. -/
theorem exists_field {before after : Row} {label p : String} {value : Value} {blank : Entity}
    (hproperty : m.property? label = some p)
    (h : ((before ++ (label, value) :: after).foldlM
      (fun e (label, value) => enterColumn m e label value) blank).perform c = (.ok e, c')) :
    ∃ hint, m.fields.get? p = some hint := by
  rw [List.foldlM_append] at h
  obtain ⟨e₁, c₁, -, h⟩ := of_perform_bind_ok h
  rw [List.foldlM_cons] at h
  obtain ⟨e₂, c₂, hentered, -⟩ := of_perform_bind_ok h
  simp only [enterColumn, hproperty] at hentered
  obtain ⟨hint, c₃, hrequired, -⟩ := of_perform_bind_ok hentered
  rw [perform_ofExcept] at hrequired
  have hfound := (Prod.mk.inj hrequired).1
  cases hfield : m.fields.get? p with
  | none => simp [TableMap.requireField, hfield] at hfound
  | some hint => exact ⟨hint, rfl⟩

/-- In a row of a query, the label that is equal to the column of a property brings the first value under
it into the property. It stays there unless a label behind it differs from the column in case only and
brings a value that is taken; of several such values the last one stays. -/
theorem get_toEntity (hnames : m.columns.names.Nodup) (hcolumns : m.columns.values.Nodup)
    {ch ch' : Channel} {rows : List Row} (hquery : Channel.executeQuery.perform ch = (.ok rows, ch'))
    (hrow : row ∈ rows) (he : (row.toEntity m).perform c = (.ok e, c')) :
    ∃ labels values, ch.connection.driver.nextResponse.columns = some labels ∧
      values ∈ ch.connection.driver.nextResponse.rows ∧
      ∀ p column v, (p, column) ∈ m.columns → Entries.get? (labels.zip values) column = some v →
        ∃ hint before after, m.fields.get? p = some hint ∧ row = before ++ (column, v) :: after ∧
          (∀ label ∈ Entries.names after, m.property? label = some p → m.VariantOf label column) ∧
          ∀ w, hint.convert v = .ok w →
            e.get p = (after.filterMap (taken? m p hint)).getLast?.getD w := by
  rw [Channel.rows_of_executeQuery hquery] at hrow
  obtain ⟨blank, c₀, hentered⟩ := of_toEntity he
  cases hlabels : ch.connection.driver.nextResponse.columns with
  | none => simp [Channel.rowsIn, hlabels] at hrow
  | some labels =>
      rw [Channel.rowsIn, hlabels] at hrow
      obtain ⟨values, hvalues, rfl⟩ := List.mem_map.mp hrow
      obtain ⟨hnodup, hget⟩ := Entries.ofFirst_spec (labels.zip values)
      refine ⟨labels, values, rfl, hvalues, fun p column v hp hv => ?_⟩
      have hproperty := TableMap.property?_of_mem hcolumns hp
      obtain ⟨before, after, hsplit, -⟩ := Entries.exists_split ((hget column).trans hv)
      rw [hsplit] at hentered hnodup
      obtain ⟨hint, hfield⟩ := exists_field hproperty hentered
      refine ⟨hint, before, after, hfield, hsplit, fun label hlabel hlead => ?variant, fun w hw => ?last⟩
      case variant =>
        refine TableMap.variantOf_of_property? hnames hp ?_ hlead
        -- No label comes twice in a row, so the one of the column is not behind itself.
        rintro rfl
        rw [Entries.names, List.map_append, List.map_cons] at hnodup
        exact (List.nodup_cons.mp (List.nodup_append.mp hnodup).2.1).1 hlabel
      case last =>
        have htaken : taken? m p hint (column, v) = some w := by
          rw [taken?, if_pos hproperty, hw]
          rfl
        rw [get_enterColumns hfield hentered, List.filterMap_append, List.filterMap_cons, htaken]
        simp [List.getLast?_append, List.getLast?_cons]

/-- Tickets have a number. -/
def ticketMap : TableMap :=
  { type :=
      { name := "Ticket", marker := none
        lineage := [{ name := "Ticket", defaults := [], construction := none
                      fields := [("id", .type .int)] }] }
    table := "ticket", columns := [("id", "id")], fields := [("id", .type .int)] }

/-- A statement whose result has two columns, the labels of which differ in case only. -/
def ticketChannel : Channel :=
  { connection :=
      { dialect := .sqlite
        driver := { responses := [{ columns := some ["id", "ID"], rows := [[.int 1, .int 2]] }] } }
    statement := { sql := "SELECT * FROM ticket, draw", operation := Statement.reading } }

/-- What the statement gives. -/
def ticketRow : Row := [("id", .int 1), ("ID", .int 2)]

/-- The entity that the row is read into. -/
def ticket : Entity := ⟨ticketMap.type, [("id", .int 2)]⟩

theorem get_toEntity_ticket :
    ∃ ch' c', Channel.executeQuery.perform ticketChannel = (.ok [ticketRow], ch') ∧
      (toEntity ticketMap ticketRow).perform ch'.connection = (.ok ticket, c') ∧
      ∃ hint before after, ticketMap.fields.get? "id" = some hint ∧
        ticketRow = before ++ ("id", .int 1) :: after ∧
        (∀ label ∈ Entries.names after,
          ticketMap.property? label = some "id" → ticketMap.VariantOf label "id") ∧
        ∀ w, hint.convert (.int 1) = .ok w →
          ticket.get "id" = (after.filterMap (taken? ticketMap "id" hint)).getLast?.getD w := by
  have hquery : Channel.executeQuery.perform ticketChannel =
      (.ok [ticketRow], (Channel.executeQuery.perform ticketChannel).2) := rfl
  have he : (toEntity ticketMap ticketRow).perform
      (Channel.executeQuery.perform ticketChannel).2.connection =
        (.ok ticket, (Channel.executeQuery.perform ticketChannel).2.connection) := rfl
  refine ⟨_, _, hquery, he, ?_⟩
  obtain ⟨labels, values, hlabels, hvalues, hread⟩ :=
    get_toEntity (by decide +kernel) (by decide +kernel) hquery List.mem_cons_self he
  obtain rfl := Option.some.inj hlabels
  obtain rfl := List.mem_singleton.mp hvalues
  exact hread "id" "id" (.int 1) List.mem_cons_self rfl

/-- The value under the label that is the column itself would be taken, but the one behind it stays. -/
theorem exact_label_overridden :
    ∃ ch' c', Channel.executeQuery.perform ticketChannel = (.ok [ticketRow], ch') ∧
      (toEntity ticketMap ticketRow).perform ch'.connection = (.ok ticket, c') ∧
      ticketMap.column? "id" = some "id" ∧ ticketRow.get? "id" = some (.int 1) ∧
      Hint.convert (.type .int) (.int 1) = .ok (.int 1) ∧ ticket.get "id" = .int 2 :=
  ⟨_, _, rfl, rfl, rfl, rfl, rfl, rfl⟩

end Row

end RelationalMapper
