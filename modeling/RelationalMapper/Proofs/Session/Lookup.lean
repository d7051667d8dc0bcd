import RelationalMapper.Proofs.Mapping.Canonical
import RelationalMapper.Proofs.Session.Operation

/-! # Lookups of maps

Whatever an application looks up, registers and runs in a session, and whatever fails: it states its
model until it came to the end of it once, every lookup of a class finds what the first successful one
found, and before that each lookup resolves the class from the mappings of its own moment. -/

namespace RelationalMapper

open RelationalMapper.Action

namespace Session

/-! ## One lookup -/

section Perform

variable {s s' : Session} {type : EntityClass}

theorem perform_registrations (registrations : List Registration) (s : Session) :
    ∃ r catalog, (registrations.forM register).perform s = (r, { s with catalog }) := by
  induction registrations generalizing s with
  | nil => exact ⟨_, _, rfl⟩
  | cons registration registrations ih =>
      cases registration with
      | error e => exact ⟨.error e, s.catalog, rfl⟩
      | ok m =>
          obtain ⟨r, catalog, hrun⟩ := ih { s with catalog := s.catalog.register m }
          have hfirst : (register (.ok m)).perform s =
            (.ok (), { s with catalog := s.catalog.register m }) := rfl
          exact ⟨r, catalog, (perform_bind_ok hfirst).trans hrun⟩

/-- To state a model only enters mappings, whether it comes to its end or not. -/
theorem perform_runModel (registrations : List Registration) (s : Session) :
    ∃ r catalog, (runModel registrations).perform s =
      (r, { s with catalog, modelRuns := s.modelRuns + 1 }) :=
  perform_registrations registrations { s with modelRuns := s.modelRuns + 1 }

theorem ensureModel_of_built (h : s.modelBuilt = true) : ensureModel.perform s = (.ok (), s) := by
  simp [ensureModel, perform_bind, h]

/-- A model that is not built is stated, and it is built if no failure comes from that. -/
theorem ensureModel_of_unbuilt (h : s.modelBuilt = false) :
    ∃ r catalog, ensureModel.perform s =
      (r, { s with catalog, modelBuilt := r.isOk
                   modelRuns := s.modelRuns + if s.model.isSome then 1 else 0 }) := by
  cases hmodel : s.model with
  | none =>
      refine ⟨.ok (), s.catalog, ?_⟩
      simp [ensureModel, perform_bind, h, hmodel, Except.isOk, Except.toBool]
  | some registrations =>
      obtain ⟨r, catalog, hrun⟩ := perform_runModel registrations s
      refine ⟨r, catalog, ?_⟩
      cases r <;> simp [ensureModel, perform_bind, h, hmodel, hrun, Except.isOk, Except.toBool]

theorem tableMap_of_known (h : ensureModel.perform s = (.ok (), s')) {m : TableMap}
    (hm : s'.maps.get? type.name = some m) : (tableMap type).perform s = (.ok m, s') := by
  rw [tableMap, perform_bind_ok h]
  simp [perform_bind, hm]

theorem tableMap_of_unknown (h : ensureModel.perform s = (.ok (), s'))
    (hnone : s'.maps.get? type.name = none) :
    (tableMap type).perform s = (Resolution.resolve s'.catalog type,
      match Resolution.resolve s'.catalog type with
      | .ok m => { s' with maps := s'.maps.put type.name m }
      | .error _ => s') := by
  rw [tableMap, perform_bind_ok h]
  simp only [perform_bind, perform_get, hnone, perform_ofExcept]
  cases Resolution.resolve s'.catalog type <;> rfl

end Perform

/-- A lookup of the map of a class, and the session that it is made in. -/
structure Lookup where
  type : EntityClass
  before : Session

namespace Lookup

def result (l : Lookup) : Except Failure TableMap := ((tableMap l.type).perform l.before).1

def after (l : Lookup) : Session := ((tableMap l.type).perform l.before).2

/-- What becomes of the model of the application before anything is looked for. -/
def modelled (l : Lookup) : Except Failure Unit := (ensureModel.perform l.before).1

/-- The session as the model leaves it. -/
def stated (l : Lookup) : Session := (ensureModel.perform l.before).2

/-- The application begins to state its model. -/
def starts (l : Lookup) : Bool := l.before.modelRuns < l.after.modelRuns

/-- The lookup finds a map for a class of this name. -/
def Finds (l : Lookup) (name : String) (m : TableMap) : Prop := l.type.name = name ∧ l.result = .ok m

variable {l : Lookup}

theorem of_built (h : l.before.modelBuilt = true) : l.modelled = .ok () ∧ l.stated = l.before := by
  rw [modelled, stated, ensureModel_of_built h]
  exact ⟨rfl, rfl⟩

theorem maps_stated (l : Lookup) : l.stated.maps = l.before.maps := by
  cases h : l.before.modelBuilt with
  | true => rw [(of_built h).2]
  | false =>
      obtain ⟨r, catalog, hrun⟩ := ensureModel_of_unbuilt h
      rw [stated, hrun]

theorem modelBuilt_stated (l : Lookup) : l.stated.modelBuilt = true ↔ l.modelled = .ok () := by
  cases h : l.before.modelBuilt with
  | true => simp [(of_built h).1, (of_built h).2, h]
  | false =>
      obtain ⟨r, catalog, hrun⟩ := ensureModel_of_unbuilt h
      rw [stated, modelled, hrun]
      cases r <;> simp [Except.isOk, Except.toBool]

theorem modelRuns_stated (l : Lookup) : l.stated.modelRuns =
    l.before.modelRuns + if l.before.modelBuilt = false ∧ l.before.model.isSome = true then 1 else 0 := by
  cases h : l.before.modelBuilt with
  | true => simp [(of_built h).2]
  | false =>
      obtain ⟨r, catalog, hrun⟩ := ensureModel_of_unbuilt h
      simp [stated, hrun]

theorem perform_ensureModel (h : l.modelled = .ok ()) :
    ensureModel.perform l.before = (.ok (), l.stated) := Prod.ext h rfl

theorem of_failed {e : Failure} (h : l.modelled = .error e) : l.result = .error e ∧ l.after = l.stated := by
  have hrun : (tableMap l.type).perform l.before = (.error e, l.stated) :=
    perform_bind_error (Prod.ext h rfl)
  rw [result, after, hrun]
  exact ⟨rfl, rfl⟩

theorem of_known (h : l.modelled = .ok ()) {m : TableMap}
    (hm : l.before.maps.get? l.type.name = some m) : l.result = .ok m ∧ l.after = l.stated := by
  rw [result, after, tableMap_of_known (perform_ensureModel h) (l.maps_stated ▸ hm)]
  exact ⟨rfl, rfl⟩

theorem of_unknown (h : l.modelled = .ok ()) (hnone : l.before.maps.get? l.type.name = none) :
    l.result = Resolution.resolve l.stated.catalog l.type ∧
      l.after = match l.result with
        | .ok m => { l.stated with maps := l.before.maps.put l.type.name m }
        | .error _ => l.stated := by
  have hrun := tableMap_of_unknown (perform_ensureModel h) (l.maps_stated ▸ hnone)
  rw [result, after, hrun, l.maps_stated]
  exact ⟨rfl, rfl⟩

/-- Beside what the model changes only the maps may be others. -/
theorem exists_after (l : Lookup) : ∃ maps, l.after = { l.stated with maps } := by
  cases h : l.modelled with
  | error e => exact ⟨l.stated.maps, (of_failed h).2⟩
  | ok _ =>
      cases hname : l.before.maps.get? l.type.name with
      | some m => exact ⟨l.stated.maps, (of_known h hname).2⟩
      | none =>
          have hafter := (of_unknown h hname).2
          cases hresult : l.result with
          | ok m => exact ⟨_, by rw [hafter, hresult]⟩
          | error e => exact ⟨l.stated.maps, by rw [hafter, hresult]⟩

theorem modelBuilt_after (l : Lookup) : l.after.modelBuilt = true ↔ l.modelled = .ok () := by
  obtain ⟨maps, hafter⟩ := l.exists_after
  rw [hafter]
  exact l.modelBuilt_stated

theorem modelRuns_after (l : Lookup) :
    l.after.modelRuns = l.before.modelRuns + if l.starts then 1 else 0 := by
  obtain ⟨maps, hafter⟩ := l.exists_after
  have hruns : l.after.modelRuns = l.stated.modelRuns := by rw [hafter]
  rw [starts, hruns, modelRuns_stated]
  split <;> simp

theorem starts_iff (l : Lookup) :
    l.starts = true ↔ l.before.modelBuilt = false ∧ l.before.model.isSome = true := by
  obtain ⟨maps, hafter⟩ := l.exists_after
  have hruns : l.after.modelRuns = l.stated.modelRuns := by rw [hafter]
  rw [starts, hruns, modelRuns_stated]
  split <;> simp_all

theorem maps_of_error {e : Failure} (h : l.result = .error e) : l.after.maps = l.before.maps := by
  rw [← l.maps_stated]
  cases hmodel : l.modelled with
  | error e' => rw [(of_failed hmodel).2]
  | ok _ =>
      cases hname : l.before.maps.get? l.type.name with
      | some m => rw [(of_known hmodel hname).2]
      | none => rw [(of_unknown hmodel hname).2, h]

/-- Kept is what was kept before and what is found. -/
theorem get?_maps_after (l : Lookup) {name : String} {m : TableMap} :
    l.after.maps.get? name = some m ↔ l.before.maps.get? name = some m ∨ l.Finds name m := by
  cases hresult : l.result with
  | error e => simp [maps_of_error hresult, Finds, hresult]
  | ok found =>
      have hmodel : l.modelled = .ok () := by
        cases hmodel : l.modelled with
        | ok _ => rfl
        | error e => simp [(of_failed hmodel).1] at hresult
      cases hname : l.before.maps.get? l.type.name with
      | some known =>
          obtain ⟨hknown, hafter⟩ := of_known hmodel hname
          rw [hafter, maps_stated, Finds, hknown, Except.ok.injEq]
          exact ⟨.inl, fun h => h.elim id fun ⟨htype, hm⟩ => htype ▸ hm ▸ hname⟩
      | none =>
          have hafter := (of_unknown hmodel hname).2
          rw [hresult] at hafter
          by_cases htype : name = l.type.name
          · subst htype
            simp [hafter, Entries.get?_put_self, hname, Finds, hresult]
          · simp [hafter, Entries.get?_put_of_ne _ _ htype, Finds, Ne.symm htype]

end Lookup

/-! ## What is remembered -/

/-- What a lookup does behind earlier ones. The model is stated as long as it did not come to its end;
what was found is found again, and nothing is touched for it; what was not found yet is resolved from the
mappings that are registered by now; and a lookup that fails leaves nothing behind. -/
structure Lookup.Follows (l : Lookup) (earlier : List Lookup) : Prop where
  starts_iff : l.starts = true ↔
    l.before.model.isSome = true ∧ ∀ l' ∈ earlier, l'.modelled ≠ .ok ()
  again : ∀ l' ∈ earlier, ∀ m, l'.Finds l.type.name m → l.result = .ok m ∧ l.after = l.before
  anew : (∀ l' ∈ earlier, ∀ m, ¬l'.Finds l.type.name m) →
    l.result = l.modelled >>= fun _ => Resolution.resolve l.after.catalog l.type
  failed : ∀ e, l.result = .error e → l.after.maps = l.before.maps

/-- The session remembers its lookups: the maps that were found, and that its model was stated. -/
structure Remembers (s : Session) (ls : List Lookup) : Prop where
  maps_iff : ∀ name m, s.maps.get? name = some m ↔ ∃ l ∈ ls, l.Finds name m
  built_iff : s.modelBuilt = true ↔ ∃ l ∈ ls, l.modelled = .ok ()
  runs_eq : s.modelRuns = ls.countP (·.starts)
  follows : ∀ earlier l later, ls = earlier ++ l :: later → l.Follows earlier

/-- The part of a session that lookups are remembered in. -/
def memory (s : Session) : Entries TableMap × Bool × Nat := (s.maps, s.modelBuilt, s.modelRuns)

section Remembers

variable {s s' s'' : Session} {ls ls' : List Lookup}

theorem Lookup.modelled_of_finds {l : Lookup} {name : String} {m : TableMap} (h : l.Finds name m) :
    l.modelled = .ok () := by
  cases hmodel : l.modelled with
  | ok _ => rfl
  | error e => simp [(of_failed hmodel).1, Finds] at h

theorem Remembers.congr (h : s.Remembers ls) (hmemory : s'.memory = s.memory) : s'.Remembers ls := by
  obtain ⟨hmaps, hbuilt, hruns⟩ : s'.maps = s.maps ∧ s'.modelBuilt = s.modelBuilt ∧
      s'.modelRuns = s.modelRuns := by simpa [memory] using hmemory
  exact ⟨hmaps ▸ h.maps_iff, hbuilt ▸ h.built_iff, hruns ▸ h.runs_eq, h.follows⟩

/-- A lookup in a session that remembers the earlier ones. -/
theorem Remembers.of_lookup {l : Lookup} (h : l.before.Remembers ls) : l.Follows ls := by
  constructor
  · rw [l.starts_iff, and_comm, ← Bool.not_eq_true, h.built_iff]
    simp only [not_exists, not_and, ne_eq]
  · intro l' hl' m hm
    have hbuilt := h.built_iff.mpr ⟨l', hl', Lookup.modelled_of_finds hm⟩
    have hknown := (h.maps_iff _ _).mpr ⟨l', hl', hm⟩
    obtain ⟨hmodel, hstated⟩ := Lookup.of_built hbuilt
    exact hstated ▸ Lookup.of_known hmodel hknown
  · intro hnew
    have hnone : l.before.maps.get? l.type.name = none := by
      cases hname : l.before.maps.get? l.type.name with
      | none => rfl
      | some m =>
          obtain ⟨l', hl', hm⟩ := (h.maps_iff _ _).mp hname
          exact absurd hm (hnew l' hl' m)
    obtain ⟨maps, hafter⟩ := l.exists_after
    cases hmodel : l.modelled with
    | error e => exact (Lookup.of_failed hmodel).1
    | ok _ => rw [hafter, (Lookup.of_unknown hmodel hnone).1]; rfl
  · exact fun e he => Lookup.maps_of_error he

theorem Remembers.lookup {l : Lookup} (h : l.before.Remembers ls) : l.after.Remembers (ls ++ [l]) := by
  refine ⟨fun name m => ?_, ?_, ?_, fun earlier l' later hsplit => ?_⟩
  · rw [l.get?_maps_after, h.maps_iff]
    simp [or_and_right, exists_or]
  · have hearlier : (∃ l' ∈ ls, l'.modelled = .ok ()) → l.modelled = .ok () :=
      fun hmodelled => (Lookup.of_built (h.built_iff.mpr hmodelled)).1
    rw [l.modelBuilt_after]
    simpa [or_and_right, exists_or] using fun l' hl' hmodelled => hearlier ⟨l', hl', hmodelled⟩
  · rw [l.modelRuns_after, h.runs_eq]
    simp [List.countP_append]
  · rcases List.eq_nil_or_concat later with rfl | ⟨later, last, rfl⟩
    · obtain ⟨rfl, hl⟩ := List.append_inj' hsplit rfl
      exact List.singleton_inj.mp hl ▸ h.of_lookup
    · -- The new lookup is behind the one in question, and what that follows stays the same.
      rw [List.concat_eq_append, ← List.cons_append, ← List.append_assoc] at hsplit
      exact h.follows earlier l' later (List.append_inj' hsplit rfl).1

end Remembers

/-! ## What is looked up on the way -/

/-- The second session comes from the first by these lookups, and by what does not touch what is
remembered. -/
inductive Looks : Session → List Lookup → Session → Prop where
  | rest {s s' : Session} (h : s'.memory = s.memory) : Looks s [] s'
  | lookup (l : Lookup) : Looks l.before [l] l.after
  | trans {s s' s'' : Session} {ls ls' : List Lookup} (h : Looks s ls s') (h' : Looks s' ls' s'') :
      Looks s (ls ++ ls') s''

theorem Remembers.looks {s s' : Session} {earlier ls : List Lookup} (h : s.Remembers earlier)
    (hlooks : Looks s ls s') : s'.Remembers (earlier ++ ls) := by
  induction hlooks generalizing earlier with
  | rest hmemory =>
      rw [List.append_nil]
      exact h.congr hmemory
  | lookup l => exact h.lookup
  | trans _ _ ih ih' =>
      rw [← List.append_assoc]
      exact ih' (ih h)

section Looks

variable {α β ε : Type} {ls : List Lookup}

/-- What comes behind the lookups does not touch what is remembered. -/
theorem Looks.bind {s : Session} {a : Action Session β} {f : β → Action Session α}
    (h : Looks s ls (a.perform s).2) (hf : ∀ x, Keeps memory (f x)) :
    Looks s ls ((a >>= f).perform s).2 := by
  have hkept := leads_after_bind (R := Eq) a (fun x => (hf x).leads) s
  simpa using h.trans (.rest hkept.symm)

theorem Looks.first_bind {p : Session × ε} {a : Action Session β} {f : β → Action (Session × ε) α}
    (h : Looks p.1 ls (a.perform p.1).2) (hf : ∀ x, Keeps (fun p => p.1.memory) (f x)) :
    Looks p.1 ls ((a.first >>= f).perform p).2.1 := by
  have hkept := leads_after_bind (R := Eq) a.first (fun x => (hf x).leads) p
  simpa using h.trans (.rest hkept.symm)

theorem Looks.forget {p : Session × ε} {a : Action (Session × ε) α}
    (h : Looks p.1 ls (a.perform p).2.1) : Looks p.1 ls (a.forget.perform p).2.1 := by
  have hkept : (a.perform p).2.1 = (a.forget.perform p).2.1 :=
    leads_after_bind a (fun _ => leads_pure ()) p
  exact hkept ▸ h

/-- An action on the session, of which only that remains. -/
theorem Looks.first_forget {s : Session} {e : ε} {a : Action Session α} (h : Looks s ls (a.perform s).2) :
    Looks s ls ((a.first.forget : Action (Session × ε) Unit).perform (s, e)).2.1 :=
  Looks.forget (p := (s, e)) (a := a.first) h

theorem keeps_onConnection (a : Action Connection α) : Keeps memory (onConnection a) := fun _ => rfl

theorem keeps_besides (a : Action (Connection × ε) α) :
    Keeps (fun p => p.1.memory) (besides a) := fun _ => rfl

/-- The maps of classes that results are read into are kept elsewhere. -/
theorem keeps_projectionMap (type : EntityClass) : Keeps memory (projectionMap type) :=
  keeps_get.bind fun _ => Keeps.bind (fun _ => rfl) fun _ => keeps_ofExcept _

theorem looks_tableMap (type : EntityClass) (s : Session) :
    Looks s [⟨type, s⟩] ((tableMap type).perform s).2 := .lookup ⟨type, s⟩

theorem looks_mapOf (entities : List Entity) (s : Session) :
    Looks s (entities.head?.toList.map fun e => ⟨e.type, s⟩) ((mapOf entities).perform s).2 := by
  cases entities with
  | nil => exact .rest rfl
  | cons e entities =>
      rw [mapOf, perform_map]
      exact looks_tableMap e.type s

/-! ### Entities -/

theorem looks_insert (e : Entity) (s : Session) :
    Looks s [⟨e.type, s⟩] (insert.perform (s, e)).2.1 := by
  rw [insert, perform_bind_ok (perform_get _)]
  exact (looks_tableMap e.type s).first_bind (p := (s, e)) fun m => keeps_besides m.insert

theorem looks_update (e : Entity) (s : Session) :
    Looks s [⟨e.type, s⟩] ((update e).perform s).2 :=
  (looks_tableMap e.type s).bind fun m => keeps_onConnection (m.update e)

theorem looks_delete (e : Entity) (s : Session) :
    Looks s [⟨e.type, s⟩] ((delete e).perform s).2 :=
  (looks_tableMap e.type s).bind fun m => keeps_onConnection (m.delete e)

theorem looks_insertAll {κ : Type} [DecidableEq κ] (refs : List κ) (s : Session)
    (store : EntityStore κ) :
    Looks s ((refs.map store).head?.toList.map fun e => ⟨e.type, s⟩)
      ((insertAll refs).perform (s, store)).2.1 := by
  rw [insertAll, perform_bind_ok (perform_get _)]
  refine (looks_mapOf (refs.map store) s).first_bind (p := (s, store)) fun m => ?_
  cases m with
  | none => exact keeps_pure _
  | some m => exact keeps_besides _

theorem looks_updateAll (entities : List Entity) (s : Session) :
    Looks s (entities.head?.toList.map fun e => ⟨e.type, s⟩) ((updateAll entities).perform s).2 := by
  refine (looks_mapOf entities s).bind fun m => ?_
  cases m with
  | none => exact keeps_pure _
  | some m => exact keeps_get.bind fun _ => keeps_onConnection _

theorem looks_deleteAll (entities : List Entity) (s : Session) :
    Looks s (entities.head?.toList.map fun e => ⟨e.type, s⟩) ((deleteAll entities).perform s).2 := by
  refine (looks_mapOf entities s).bind fun m => ?_
  cases m with
  | none => exact keeps_pure _
  | some m => exact keeps_get.bind fun _ => keeps_onConnection _

/-! ### Schema -/

theorem looks_query (type : EntityClass) (s : Session) :
    Looks s [⟨type, s⟩] ((query type).perform s).2 :=
  (looks_tableMap type s).bind fun _ => keeps_get.bind fun _ => keeps_pure _

theorem looks_createText (type : EntityClass) (guarded : Bool) (s : Session) :
    Looks s [⟨type, s⟩] ((createText type guarded).perform s).2 :=
  (looks_tableMap type s).bind fun _ => keeps_get.bind fun _ => keeps_ofExcept _

theorem looks_dropText (type : EntityClass) (guarded : Bool) (s : Session) :
    Looks s [⟨type, s⟩] ((dropText type guarded).perform s).2 :=
  (looks_tableMap type s).bind fun _ => keeps_get.bind fun _ => keeps_pure _

theorem looks_createTable (type : EntityClass) (s : Session) :
    Looks s [⟨type, s⟩] ((createTable type).perform s).2 :=
  (looks_createText type true s).bind fun _ => keeps_onConnection _

theorem looks_dropTable (type : EntityClass) (s : Session) :
    Looks s [⟨type, s⟩] ((dropTable type).perform s).2 :=
  (looks_dropText type true s).bind fun _ => keeps_onConnection _

/-- The lookups for creating tables, up to the first table that is not created. -/
def creationLookups : List EntityClass → Session → List Lookup
  | [], _ => []
  | type :: types, s => ⟨type, s⟩ :: match (createTable type).perform s with
      | (.ok _, s') => creationLookups types s'
      | (.error _, _) => []

theorem looks_createTables (types : List EntityClass) (s : Session) :
    Looks s (creationLookups types s) ((createTables types).perform s).2 := by
  rw [createTables]
  generalize (0 : Int) = total
  induction types generalizing s total with
  | nil => exact .rest rfl
  | cons type types ih =>
      -- A class may be looked up successfully and its table be refused: then no more classes follow.
      have hcreate := looks_createTable type s
      rw [List.foldlM_cons, bind_assoc, creationLookups]
      rcases hrun : (createTable type).perform s with ⟨e | n, s'⟩
      · rw [hrun] at hcreate
        rw [perform_bind_error hrun]
        exact hcreate
      · rw [hrun] at hcreate
        rw [perform_bind_ok hrun, pure_bind]
        exact hcreate.trans (ih s' _)

end Looks

end Session

/-! ## Operations -/

namespace Query

open Session (memory)

theorem keeps_second {α : Type} (a : Action Query α) :
    Keeps (fun p => p.1.memory) (a.second : Action (Session × Query) α) := fun _ => rfl

theorem keeps_sent {α : Type} (a : Action Connection α) :
    Keeps (fun p => p.1.memory) ((Session.onConnection a).first : Action (Session × Query) α) :=
  fun _ => rfl

theorem keeps_fetch (compile : Query → Except Failure String) :
    Keeps (fun p => p.1.memory) (fetch compile) :=
  (keeps_second use).bind fun _ => keeps_get.bind fun _ => (keeps_ofExcept _).bind fun _ => keeps_sent _

theorem keeps_write (operation : String) (compile : Query → Except Failure Compiled) :
    Keeps (fun p => p.1.memory) (write operation compile) :=
  (keeps_second _).bind fun _ => keeps_get.bind fun _ => (keeps_ofExcept _).bind fun _ =>
    (keeps_second _).bind fun _ => keeps_sent _

theorem keeps_toList (type : Option EntityClass) : Keeps (fun p => p.1.memory) (toList type) := by
  refine (keeps_fetch _).bind fun rows => keeps_get.bind fun (_, q) => ?_
  have hentities (m : TableMap) := keeps_mapM (fun row : Row => keeps_sent (row.toEntity m)) rows
  cases type with
  | none => exact hentities q.base
  | some t => exact Keeps.bind (fun p => Session.keeps_projectionMap t p.1) hentities

/-- Queries that are executed look nothing up: they hold the map of their class. -/
theorem Terminal.keeps_memory (t : Terminal) : Keeps (fun p => p.1.memory) t.action := by
  cases t with
  | rows => exact (keeps_fetch _).bind fun _ => keeps_pure _
  | entities type => exact (keeps_toList type).bind fun _ => keeps_pure _
  | first =>
      exact ((keeps_second _).bind fun _ => (keeps_toList none).bind fun _ => keeps_pure _).bind
        fun _ => keeps_pure _
  | frame => exact ((keeps_fetch _).bind fun _ => keeps_pure _).bind fun _ => keeps_pure _
  | count => exact ((keeps_fetch _).bind fun _ => keeps_ofExcept _).bind fun _ => keeps_pure _
  | update assignments => exact (keeps_write _ _).bind fun _ => keeps_pure _
  | delete => exact (keeps_write _ _).bind fun _ => keeps_pure _

end Query

namespace Operation

open Session (Looks Lookup)

variable {κ : Type} [DecidableEq κ]

/-- The lookups that an operation makes. -/
def lookups : Operation κ → Session × EntityStore κ → List Lookup
  | insert ref, (s, store) | update ref, (s, store) | delete ref, (s, store) => [⟨(store ref).type, s⟩]
  | insertAll refs, (s, store) | updateAll refs, (s, store) | deleteAll refs, (s, store) =>
      (refs.map store).head?.toList.map fun e => ⟨e.type, s⟩
  | createTables types, (s, _) => Session.creationLookups types s
  | dropTable type, (s, _) => [⟨type, s⟩]
  | execute .., _ | query .., _ | prepared .., _ | terminal .., _ => []

omit [DecidableEq κ] in
theorem looks_onEntity {ref : κ} {a : Entity → Action Session Int} {s : Session} {store : EntityStore κ}
    {ls : List Lookup} (h : Looks s ls ((a (store ref)).perform s).2) :
    Looks s ls ((onEntity ref a).perform (s, store)).2.1 := by
  rw [onEntity, perform_bind_ok (perform_get _)]
  exact h.first_forget

omit [DecidableEq κ] in
theorem looks_onEntities {refs : List κ} {a : List Entity → Action Session Int} {s : Session}
    {store : EntityStore κ} {ls : List Lookup} (h : Looks s ls ((a (refs.map store)).perform s).2) :
    Looks s ls ((onEntities refs a).perform (s, store)).2.1 := by
  rw [onEntities, perform_bind_ok (perform_get _)]
  exact h.first_forget

theorem looks (op : Operation κ) (p : Session × EntityStore κ) :
    Looks p.1 (op.lookups p) (op.action.perform p).2.1 := by
  obtain ⟨s, store⟩ := p
  cases op with
  | insert ref => exact (Session.looks_insert (store ref) s).forget (p := (s, store ref))
  | update ref => exact looks_onEntity (Session.looks_update (store ref) s)
  | delete ref => exact looks_onEntity (Session.looks_delete (store ref) s)
  | insertAll refs => exact (Session.looks_insertAll refs s store).forget (p := (s, store))
  | updateAll refs => exact looks_onEntities (Session.looks_updateAll (refs.map store) s)
  | deleteAll refs => exact looks_onEntities (Session.looks_deleteAll (refs.map store) s)
  | createTables types => exact (Session.looks_createTables types s).first_forget
  | dropTable type => exact (Session.looks_dropTable type s).first_forget
  | execute sql params operation =>
      exact Looks.first_forget (.rest (Session.keeps_onConnection _ s))
  | query sql params =>
      exact Looks.first_forget (.rest (Session.keeps_onConnection _ s))
  | prepared sql operation uses => exact .rest rfl
  | terminal q t => exact .rest (t.keeps_memory (s, q))

end Operation

/-! ## Whatever is asked of a session -/

namespace Session

/-- What an application asks of a session that may have to do with the maps of classes. -/
inductive Turn (κ : Type) where
  | lookup (type : EntityClass)
  | query (type : EntityClass)
  | createText (type : EntityClass) (guarded : Bool)
  | dropText (type : EntityClass) (guarded : Bool)
  | operation (op : Operation κ)
  | register (registration : Registration)
  /-- From now on the application states another model, if it is asked for one. -/
  | restate (model : Option (List Registration))
  deriving Inhabited

namespace Turn

variable {κ : Type} [DecidableEq κ]

def action : Turn κ → Action (Session × EntityStore κ) Unit
  | lookup type => (tableMap type).first.forget
  | query type => (Session.query type).first.forget
  | createText type guarded => (Session.createText type guarded).first.forget
  | dropText type guarded => (Session.dropText type guarded).first.forget
  | operation op => op.action
  | register registration => (Session.register registration).first
  | restate model => (modify fun s => { s with model } : Action Session Unit).first

/-- The lookups that are made for it. -/
def lookups : Turn κ → Session × EntityStore κ → List Lookup
  | lookup type, (s, _) | query type, (s, _) | createText type _, (s, _) | dropText type _, (s, _) =>
      [⟨type, s⟩]
  | operation op, p => op.lookups p
  | register _, _ | restate _, _ => []

theorem looks (turn : Turn κ) (p : Session × EntityStore κ) :
    Looks p.1 (turn.lookups p) (turn.action.perform p).2.1 := by
  obtain ⟨s, store⟩ := p
  cases turn with
  | lookup type => exact (looks_tableMap type s).first_forget
  | query type => exact (looks_query type s).first_forget
  | createText type guarded => exact (looks_createText type guarded s).first_forget
  | dropText type guarded => exact (looks_dropText type guarded s).first_forget
  | operation op => exact op.looks (s, store)
  | register registration =>
      refine .rest ?_
      cases registration <;> rfl
  | restate model => exact .rest rfl

/-- One turn after the other, whatever becomes of them. -/
def run (turns : List (Turn κ)) (p : Session × EntityStore κ) : Session × EntityStore κ :=
  turns.foldl (fun p turn => (turn.action.perform p).2) p

/-- All lookups of the turns, in their order. -/
def history : List (Turn κ) → Session × EntityStore κ → List Lookup
  | [], _ => []
  | turn :: turns, p => turn.lookups p ++ history turns (turn.action.perform p).2

theorem looks_run (turns : List (Turn κ)) (p : Session × EntityStore κ) :
    Looks p.1 (history turns p) (run turns p).1 := by
  induction turns generalizing p with
  | nil => exact .rest rfl
  | cons turn turns ih => exact (turn.looks p).trans (ih _)

end Turn

theorem remembers_start {connection : Connection} {model : Option (List Registration)} {s : Session}
    (h : start connection model = .ok s) : s.Remembers [] := by
  have hmemory : s.memory = ([], false, 0) := by
    rw [start] at h
    split at h
    · rw [← Except.ok.inj h]
      rfl
    · obtain ⟨limit, -, rfl⟩ := map_eq_ok.mp h
      rfl
  obtain ⟨hmaps, hbuilt, hruns⟩ : s.maps = [] ∧ s.modelBuilt = false ∧ s.modelRuns = 0 := by
    simpa [memory] using hmemory
  refine ⟨fun name m => ?_, ?_, hruns, fun earlier l later hsplit => ?_⟩
  · simp [hmaps]
  · simp [hbuilt]
  · simp at hsplit

/-- From its start on a session remembers all lookups, whatever is asked of it and whatever fails. -/
theorem remembers_run {connection : Connection} {model : Option (List Registration)} {s : Session}
    (h : start connection model = .ok s) {κ : Type} [DecidableEq κ] (turns : List (Turn κ))
    (store : EntityStore κ) :
    (Turn.run turns (s, store)).1.Remembers (Turn.history turns (s, store)) := by
  simpa using (remembers_start h).looks (Turn.looks_run turns (s, store))

/-- A model that fails at first, then states a mapping of memos; the mapping that is registered later
comes too late for a class that was looked up. -/
def memoTurns : List (Turn Unit) :=
  [.lookup memoClass, .restate (some (memos.values.map .ok)), .createText memoClass false,
    .register (MappingDraft.ofSteps memoClass []).finished, .lookup memoClass,
    .operation (.createTables [memoClass])]

theorem remembers_run_memos :
    let s : Session :=
      { connection := { dialect := .sqlite }
        model := some [.error (.misconfiguration (.noField "size" "Memo"))] }
    let store : EntityStore Unit := fun _ => default
    start s.connection s.model = .ok s ∧
      (Turn.history memoTurns (s, store)).map (fun l => (l.starts, l.result.isOk)) =
        [(true, false), (true, true), (false, true), (false, true)] ∧
      (Turn.run memoTurns (s, store)).1.Remembers (Turn.history memoTurns (s, store)) := by
  intro s store
  have hstart : start s.connection s.model = .ok s := rfl
  exact ⟨hstart, by decide +kernel, remembers_run hstart memoTurns store⟩

end Session

end RelationalMapper
