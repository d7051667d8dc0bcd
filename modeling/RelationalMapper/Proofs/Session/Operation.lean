import RelationalMapper.Proofs.Bulk.Calls
import RelationalMapper.Query.Run

/-! # Operations of a session

Whatever an operation is asked to do and however it ends, the connection advances, and no block is
opened or closed. -/

namespace RelationalMapper

open RelationalMapper.Action

/-! ## Operations -/

/-- The calls that execute a query. -/
inductive Query.Terminal where
  | rows
  | entities (type : Option EntityClass)
  | first
  | frame
  | count
  | update (assignments : Option (List (String × Value)))
  | delete
  deriving DecidableEq, Inhabited

def Query.Terminal.action : Terminal → Action (Session × Query) Unit
  | rows => toRows.forget
  | entities type => (toList type).forget
  | first => Query.first.forget
  | frame => toFrame.forget
  | count => Query.count.forget
  | update assignments => (Query.update assignments).forget
  | delete => Query.delete.forget

/-- What the call names its statement. -/
def Query.Terminal.operation : Terminal → String
  | update _ => TableMap.updateOperation
  | delete => TableMap.deleteOperation
  | _ => Statement.reading

/-- The call only reads. -/
def Query.Terminal.reads : Terminal → Bool
  | update _ | delete => false
  | _ => true

/-- What an application asks of a session, with its entities given by what refers to them. -/
inductive Operation (κ : Type) where
  | insert (ref : κ)
  | update (ref : κ)
  | delete (ref : κ)
  | insertAll (refs : List κ)
  | updateAll (refs : List κ)
  | deleteAll (refs : List κ)
  | execute (sql : String) (params : List Value) (operation : String)
  | query (sql : String) (params : List Value)
  | prepared (sql operation : String) (uses : List Statement.Use)
  | createTables (types : List EntityClass)
  | dropTable (type : EntityClass)
  /-- A query in whatever state is executed. -/
  | terminal (q : Query) (terminal : Query.Terminal)
  deriving Inhabited

section Operation

variable {κ : Type} [DecidableEq κ]

/-- An action on an entity, of which only the session remains. -/
def Operation.onEntity (ref : κ) (a : Entity → Action Session Int) :
    Action (Session × EntityStore κ) Unit := do
  let (_, store) ← get
  (a (store ref)).first.forget

def Operation.onEntities (refs : List κ) (a : List Entity → Action Session Int) :
    Action (Session × EntityStore κ) Unit := do
  let (_, store) ← get
  (a (refs.map store)).first.forget

def Operation.action : Operation κ → Action (Session × EntityStore κ) Unit
  | insert ref => Session.insert.forget.within (fun (s, store) => (s, store ref))
      fun (_, store) (s, e) => (s, store.put ref e)
  | update ref => onEntity ref Session.update
  | delete ref => onEntity ref Session.delete
  | insertAll refs => (Session.insertAll refs).forget
  | updateAll refs => onEntities refs Session.updateAll
  | deleteAll refs => onEntities refs Session.deleteAll
  | execute sql params operation =>
      (Session.onConnection (Connection.execute sql params operation)).first.forget
  | query sql params => (Session.onConnection (Connection.query sql params)).first.forget
  | prepared sql operation uses => (Session.onConnection
      (Connection.onStatement sql operation (uses.forM Statement.Use.action))).first
  | createTables types => (Session.createTables types).first.forget
  | dropTable type => (Session.dropTable type).first.forget
  | terminal q t => t.action.within (fun (s, _) => (s, q)) fun (_, store) (s, _) => (s, store)

/-- What the operation calls its statements. -/
def Operation.operation : Operation κ → String
  | insert _ | insertAll _ => TableMap.insertOperation
  | update _ | updateAll _ => TableMap.updateOperation
  | delete _ | deleteAll _ => TableMap.deleteOperation
  | execute _ _ operation => operation
  | query .. => Statement.reading
  | prepared _ operation _ => operation
  | createTables _ | dropTable _ => Session.schemaOperation
  | terminal _ t => t.operation

/-- The operation runs its statements for reading only, or for what they change. A statement that is
prepared may be run in either way. -/
def Operation.reads? : Operation κ → Option Bool
  | prepared .. => none
  | query .. => some true
  | terminal _ t => some t.reads
  | _ => some false

/-- The operation may run a statement like this. -/
def Operation.Admits (op : Operation κ) (reads : Bool) : Prop :=
  op.reads? = none ∨ op.reads? = some reads

end Operation

/-! ## What they pass along -/

namespace Session

/-- A way of the connection, on which no block is opened or closed. -/
def Passed (T : Connection → Connection → Option Failure → Prop) (s s' : Session)
    (o : Option Failure) : Prop :=
  T s.connection s'.connection o ∧ s'.blocks = s.blocks

variable {T : Connection → Connection → Option Failure → Prop} {α ε : Type}

theorem passes_onConnection {a : Action Connection α} (h : Passes T id a) :
    Passes (Passed T) id (onConnection a) := fun s => ⟨h s.connection, rfl⟩

theorem passes_besides {a : Action (Connection × ε) α} (h : Passes T (·.1) a) :
    Passes (Passed T) (·.1) (besides a) := fun (s, e) => ⟨h (s.connection, e), rfl⟩

variable [Passage T]

instance : Passage (Passed T) where
  rest s o := ⟨Passage.rest s.connection o, rfl⟩
  trans h h' := ⟨Passage.trans h.1 h'.1, h'.2.trans h.2⟩

/-- Neither the connection nor the blocks are touched. -/
theorem passes_modify {f : Session → Session} (hc : ∀ s, (f s).connection = s.connection)
    (hb : ∀ s, (f s).blocks = s.blocks) : Passes (Passed T) id (modify f : Action Session Unit) := by
  intro s
  refine ⟨?_, hb s⟩
  change T s.connection (f s).connection _
  rw [hc]
  exact Passage.rest _ _

/-! ### Table maps -/

theorem passes_runModel (registrations : List Registration) :
    Passes (Passed T) id (runModel registrations) := by
  refine Passes.bind (passes_modify (fun _ => rfl) fun _ => rfl) fun _ => ?_
  apply passes_forM
  intro r _
  exact (passes_ofExcept _).bind fun _ => passes_modify (fun _ => rfl) fun _ => rfl

theorem passes_ensureModel : Passes (Passed T) id ensureModel := by
  refine passes_get.bind fun s => ?_
  split
  · refine Passes.bind ?_ fun _ => passes_modify (fun _ => rfl) fun _ => rfl
    cases s.model with
    | none => exact passes_pure _
    | some registrations => exact passes_runModel registrations
  · exact passes_pure _

theorem passes_tableMap (type : EntityClass) : Passes (Passed T) id (tableMap type) := by
  refine passes_ensureModel.bind fun _ => passes_get.bind fun s => ?_
  split
  · exact passes_pure _
  · exact (passes_ofExcept _).bind fun _ =>
      Passes.bind (passes_modify (fun _ => rfl) fun _ => rfl) fun _ => passes_pure _

/-- Finding the map of a class does not touch the connection. -/
theorem keeps_tableMap (type : EntityClass) : Keeps Session.connection (tableMap type) := by
  have h : Passes (Passed (Regardless Eq)) id (tableMap type) := passes_tableMap type
  exact fun s => (h s).1.symm

theorem passes_projectionMap (type : EntityClass) :
    Passes (Passed T) id (projectionMap type) :=
  passes_get.bind fun _ => Passes.bind (passes_modify (fun _ => rfl) fun _ => rfl) fun _ =>
    passes_ofExcept _

theorem passes_mapOf (entities : List Entity) : Passes (Passed T) id (mapOf entities) := by
  cases entities with
  | nil => exact passes_pure _
  | cons e entities => exact (passes_tableMap e.type).bind fun m => passes_pure (some m)

end Session

/-! ### Entities -/

namespace Session

open Statement (Conduct)

variable {S : Channel → Channel → Option Failure → Prop} [Passage S]
  {T : Connection → Connection → Option Failure → Prop} [Passage T] {admits : Bool → Prop}
  {κ : Type} [DecidableEq κ]

theorem passes_insert (h : Conduct TableMap.insertOperation admits S T) (hadmits : admits false) :
    Passes (Passed T) (·.1) Session.insert :=
  passes_get.bind fun (_, e) => (passes_first (passes_tableMap e.type)).bind fun _ =>
    passes_besides (TableMap.passes_insert h hadmits)

theorem passes_insertAll (h : Conduct TableMap.insertOperation admits S T)
    (hadmits : admits false) (refs : List κ) : Passes (Passed T) (·.1) (Session.insertAll refs) := by
  refine passes_get.bind fun (s, store) => (passes_first (passes_mapOf _)).bind fun m => ?_
  cases m with
  | none => exact passes_pure _
  | some m => exact passes_besides (TableMap.passes_insertAll h hadmits _ _)

theorem passes_update (h : Conduct TableMap.updateOperation admits S T) (hadmits : admits false)
    (e : Entity) : Passes (Passed T) id (Session.update e) :=
  (passes_tableMap e.type).bind fun _ => passes_onConnection (TableMap.passes_update h hadmits e)

theorem passes_updateAll (h : Conduct TableMap.updateOperation admits S T)
    (hadmits : admits false) (entities : List Entity) :
    Passes (Passed T) id (Session.updateAll entities) := by
  refine (passes_mapOf _).bind fun m => ?_
  cases m with
  | none => exact passes_pure _
  | some m =>
      exact passes_get.bind fun _ => passes_onConnection (TableMap.passes_updateAll h hadmits _ _)

theorem passes_delete (h : Conduct TableMap.deleteOperation admits S T) (hadmits : admits false)
    (e : Entity) : Passes (Passed T) id (Session.delete e) :=
  (passes_tableMap e.type).bind fun _ => passes_onConnection (TableMap.passes_delete h hadmits e)

theorem passes_deleteAll (h : Conduct TableMap.deleteOperation admits S T)
    (hadmits : admits false) (entities : List Entity) :
    Passes (Passed T) id (Session.deleteAll entities) := by
  refine (passes_mapOf _).bind fun m => ?_
  cases m with
  | none => exact passes_pure _
  | some m =>
      exact passes_get.bind fun _ => passes_onConnection (TableMap.passes_deleteAll h hadmits _ _)

/-! ### Schema -/

theorem passes_createTable (h : Conduct schemaOperation admits S T) (hadmits : admits false)
    (type : EntityClass) : Passes (Passed T) id (createTable type) :=
  Passes.bind ((passes_tableMap type).bind fun _ => passes_get.bind fun _ => passes_ofExcept _)
    fun _ => passes_onConnection (h.passes_execute hadmits _ _)

theorem passes_createTables (h : Conduct schemaOperation admits S T) (hadmits : admits false)
    (types : List EntityClass) : Passes (Passed T) id (createTables types) := by
  apply passes_foldlM
  intro total type
  exact (passes_createTable h hadmits type).bind fun _ => passes_pure _

theorem passes_dropTable (h : Conduct schemaOperation admits S T) (hadmits : admits false)
    (type : EntityClass) : Passes (Passed T) id (dropTable type) :=
  Passes.bind ((passes_tableMap type).bind fun _ => passes_get.bind fun _ => passes_pure _)
    fun _ => passes_onConnection (h.passes_execute hadmits _ _)

end Session

/-! ### Queries -/

section Queries

open Session (Passed)
open Statement (Conduct)

variable {S : Channel → Channel → Option Failure → Prop}
  {T : Connection → Connection → Option Failure → Prop} [Passage T] {operation : String}
  {admits : Bool → Prop}

section Rows

variable (hreport : ∀ n, Passes T id (Connection.report n))

include hreport

theorem Row.passes_enterColumn (m : TableMap) (e : Entity) (label : String) (value : Value) :
    Passes T id (enterColumn m e label value) := by
  unfold enterColumn
  split
  · exact passes_pure _
  · refine (passes_ofExcept _).bind fun hint => ?_
    split
    · exact passes_pure _
    · exact passes_throw _
    · exact (hreport _).bind fun _ => passes_pure _

theorem Row.passes_toEntity (m : TableMap) (row : Row) : Passes T id (row.toEntity m) := by
  refine (passes_ofExcept _).bind fun blank => ?_
  apply passes_foldlM
  rintro e ⟨label, value⟩
  exact passes_enterColumn hreport m e label value

end Rows

namespace Query

/-- Reads the rows of a query into entities. -/
def readAs (type : Option EntityClass) (rows : List Row) :
    Action (Session × Query) (List Entity) := do
  let (_, q) ← get
  let m ← match type with
    | none => pure q.base
    | some t => (Session.projectionMap t).first
  rows.mapM fun row => (Session.onConnection (row.toEntity m)).first

theorem toList_eq (type : Option EntityClass) : toList type = toRows >>= readAs type := rfl

theorem passes_readAs (hreport : ∀ n, Passes T id (Connection.report n))
    (type : Option EntityClass) (rows : List Row) : Passes (Passed T) (·.1) (readAs type rows) := by
  have hentities : ∀ m : TableMap,
      Passes (Passed T) (·.1) (rows.mapM fun row =>
        ((Session.onConnection (row.toEntity m)).first : Action (Session × Query) Entity)) := by
    intro m
    apply passes_mapM
    intro row
    exact passes_first (Session.passes_onConnection (row.passes_toEntity hreport m))
  refine passes_get.bind fun (_, q) => ?_
  cases type with
  | none => exact hentities q.base
  | some t => exact (passes_first (Session.passes_projectionMap t)).bind hentities

variable [Passage S]

theorem passes_fetch (h : Conduct Statement.reading admits S T) (hadmits : admits true)
    (compile : Query → Except Failure String) : Passes (Passed T) (·.1) (fetch compile) :=
  (passes_second _).bind fun _ => passes_get.bind fun _ => (passes_ofExcept _).bind fun _ =>
    passes_first (Session.passes_onConnection (h.passes_query rfl hadmits _ _))

theorem passes_toList (h : Conduct Statement.reading admits S T) (hadmits : admits true)
    (type : Option EntityClass) : Passes (Passed T) (·.1) (toList type) := by
  rw [toList_eq]
  exact (passes_fetch h hadmits _).bind fun rows => passes_readAs h.passes_report type rows

theorem passes_write (h : Conduct operation admits S T) (hadmits : admits false)
    (compile : Query → Except Failure Compiled) :
    Passes (Passed T) (·.1) (write operation compile) :=
  (passes_second _).bind fun _ => passes_get.bind fun _ => (passes_ofExcept _).bind fun _ =>
    (passes_second _).bind fun _ =>
      passes_first (Session.passes_onConnection (h.passes_execute hadmits _ _))

theorem Terminal.passes (t : Terminal) (h : Conduct t.operation admits S T)
    (hadmits : admits t.reads) : Passes (Passed T) (·.1) t.action := by
  cases t with
  | rows => exact (passes_fetch h hadmits _).forget
  | entities type => exact (passes_toList h hadmits type).forget
  | first =>
      exact Passes.forget ((passes_second _).bind fun _ =>
        (passes_toList h hadmits none).bind fun _ => passes_pure _)
  | frame => exact Passes.forget ((passes_fetch h hadmits _).bind fun _ => passes_pure _)
  | count => exact Passes.forget ((passes_fetch h hadmits _).bind fun _ => passes_ofExcept _)
  | update assignments => exact (passes_write h hadmits _).forget
  | delete => exact (passes_write h hadmits _).forget

end Query

end Queries

namespace Operation

open Session (Passed)
open Statement (Conduct)

variable {κ : Type} [DecidableEq κ] {S : Channel → Channel → Option Failure → Prop} [Passage S]
  {T : Connection → Connection → Option Failure → Prop} [Passage T]

/-- An operation passes along what its statements keep to. -/
theorem passes (op : Operation κ) (h : Conduct op.operation op.Admits S T) :
    Passes (Passed T) (·.1) op.action := by
  cases op with
  | insert ref =>
      rintro ⟨s, store⟩
      exact (Session.passes_insert h (.inr rfl)).forget (s, store ref)
  | update ref =>
      exact passes_get.bind fun (_, store) =>
        (passes_first (Session.passes_update h (.inr rfl) (store ref))).forget
  | delete ref =>
      exact passes_get.bind fun (_, store) =>
        (passes_first (Session.passes_delete h (.inr rfl) (store ref))).forget
  | insertAll refs => exact (Session.passes_insertAll h (.inr rfl) refs).forget
  | updateAll refs =>
      exact passes_get.bind fun (_, store) =>
        (passes_first (Session.passes_updateAll h (.inr rfl) (refs.map store))).forget
  | deleteAll refs =>
      exact passes_get.bind fun (_, store) =>
        (passes_first (Session.passes_deleteAll h (.inr rfl) (refs.map store))).forget
  | execute sql params operation =>
      exact (passes_first (Session.passes_onConnection
        (h.passes_execute (.inr rfl) _ _))).forget
  | query sql params =>
      exact (passes_first (Session.passes_onConnection
        (h.passes_query rfl (.inr rfl) _ _))).forget
  | prepared sql operation uses =>
      exact passes_first (Session.passes_onConnection
        (h.passes_onStatement _ (passes_forM fun use _ => h.passes_use (fun _ => .inl rfl) use)))
  | createTables types =>
      exact (passes_first (Session.passes_createTables h (.inr rfl) types)).forget
  | dropTable type => exact (passes_first (Session.passes_dropTable h (.inr rfl) type)).forget
  | terminal q t =>
      rintro ⟨s, store⟩
      exact t.passes h (.inr rfl) (s, q)

end Operation

/-! ## Sessions that advance -/

/-- What operations make of a session. -/
structure Session.Advances (s s' : Session) : Prop where
  connection : s.connection.Advances s'.connection
  blocks_eq : s'.blocks = s.blocks

instance : IsPreorder Session Session.Advances where
  refl s := ⟨refl_of Connection.Advances s.connection, rfl⟩
  trans _ _ _ h h' :=
    ⟨trans_of Connection.Advances h.connection h'.connection, h'.blocks_eq.trans h.blocks_eq⟩

theorem Operation.leads {κ : Type} [DecidableEq κ] (op : Operation κ) :
    Leads Session.Advances (·.1) op.action := by
  intro p
  obtain ⟨hconnection, hblocks⟩ := op.passes (Connection.conduct_advances op.operation op.Admits) p
  exact ⟨hconnection, hblocks⟩

end RelationalMapper
