import RelationalMapper.Proofs.Sql.Selection

/-! # The grammar of conditions

Conditions are alternatives of what has to be met together, and parentheses make one piece of any
condition. What the grammar derives is what a database reads. -/

namespace RelationalMapper.Sql

/-- How much a part of a condition may hold: one test or one group, a conjunction of those, or
alternatives of conjunctions. -/
inductive Grade where
  | single
  | together
  | alternatives
  deriving DecidableEq

/-- The grammar of conditions, in which AND binds closer than OR, and both associate to the left. -/
inductive Derives : Grade → List (Piece Check) → Formula → Prop where
  | check (c : Check) : Derives .single [.test c] (.check c)
  | group {ps : List (Piece Check)} {f : Formula} (h : Derives .alternatives ps f) :
      Derives .single (.opening :: (ps ++ [.closing])) f
  | alone {ps : List (Piece Check)} {f : Formula} (h : Derives .single ps f) :
      Derives .together ps f
  | and {ps ps' : List (Piece Check)} {f f' : Formula} (h : Derives .together ps f)
      (h' : Derives .single ps' f') : Derives .together (ps ++ .and :: ps') (.and f f')
  | only {ps : List (Piece Check)} {f : Formula} (h : Derives .together ps f) :
      Derives .alternatives ps f
  | or {ps ps' : List (Piece Check)} {f f' : Formula} (h : Derives .alternatives ps f)
      (h' : Derives .together ps' f') : Derives .alternatives (ps ++ .or :: ps') (.or f f')

/-- The checks of a formula from left to right. -/
def Formula.checks : Formula → List Check
  | check c => [c]
  | and left right | or left right => left.checks ++ right.checks

section Derivations

variable {grade : Grade} {ps ps' : List (Piece Check)} {f f' : Formula}

/-- The leaves are the tests, in their order. -/
theorem Derives.checks_eq (h : Derives grade ps f) : f.checks = ps.filterMap Piece.test? := by
  induction h with
  | check c => rfl
  | group _ ih =>
      rw [ih, List.filterMap_cons_none rfl, List.filterMap_append]
      exact (List.append_nil _).symm
  | alone _ ih => exact ih
  | and _ _ ih ih' =>
      rw [Formula.checks, ih, ih', List.filterMap_append, List.filterMap_cons_none rfl]
  | only _ ih => exact ih
  | or _ _ ih ih' =>
      rw [Formula.checks, ih, ih', List.filterMap_append, List.filterMap_cons_none rfl]

/-- Behind a condition, AND goes with the last of its alternatives. -/
theorem Derives.exists_and (h : Derives .alternatives ps f) (h' : Derives .single ps' f') :
    ∃ g, Derives .alternatives (ps ++ .and :: ps') g := by
  cases h with
  | only h => exact ⟨_, .only (.and h h')⟩
  | @or _ _ first last h hlast =>
      refine ⟨.or first (.and last f'), ?_⟩
      rw [List.append_assoc, List.cons_append]
      exact .or h (.and hlast h')

end Derivations

/-! ## The grammar and the reader -/

/-- What becomes of a level when it is read on behind such a part. -/
def Grade.Reads : Grade → List (Piece Check) → Formula → Prop
  | single, ps, f => ∀ level around rest,
    Formula.ofPieces? true level around (ps ++ rest) =
      Formula.ofPieces? false (level.meet f) around rest
  | together, ps, f => ∀ alternatives around rest,
    Formula.ofPieces? true { alternatives } around (ps ++ rest) =
      Formula.ofPieces? false { alternatives, together := some f } around rest
  | alternatives, ps, f => ∃ level : Level, level.closed? = some f ∧ ∀ around rest,
    Formula.ofPieces? true {} around (ps ++ rest) = Formula.ofPieces? false level around rest

theorem Derives.reads {grade : Grade} {ps : List (Piece Check)} {f : Formula}
    (h : Derives grade ps f) : grade.Reads ps f := by
  induction h with
  | check c => exact fun level around rest => rfl
  | group _ ih =>
      obtain ⟨inner, hinner, hread⟩ := ih
      intro level around rest
      rw [List.cons_append, List.append_assoc, Formula.ofPieces?, if_pos rfl, hread]
      simp only [List.singleton_append, Formula.ofPieces?, hinner]
  | alone _ ih => exact fun alternatives around rest => ih { alternatives } around rest
  | and _ _ ih ih' =>
      intro alternatives around rest
      rw [List.append_assoc, List.cons_append, ih, Formula.ofPieces?, if_neg (by simp), ih']
      rfl
  | only _ ih => exact ⟨_, rfl, fun around rest => ih none around rest⟩
  | @or _ _ f f' _ _ ih ih' =>
      obtain ⟨first, hfirst, hread⟩ := ih
      refine ⟨{ alternatives := some f, together := some f' }, rfl, fun around rest => ?_⟩
      rw [List.append_assoc, List.cons_append, hread, Formula.ofPieces?, if_neg (by simp), hfirst,
        ih']

/-- What was read since a level was opened. -/
inductive Level.Holds : Bool → Level → List (Piece Check) → Prop where
  | start : Holds true {} []
  | first {ps : List (Piece Check)} {f : Formula} (h : Derives .together ps f) :
      Holds false { together := some f } ps
  | behind {ps ps' : List (Piece Check)} {f f' : Formula} (h : Derives .alternatives ps f)
      (h' : Derives .together ps' f') :
      Holds false { alternatives := some f, together := some f' } (ps ++ .or :: ps')
  | and {level : Level} {ps : List (Piece Check)} (h : Holds false level ps) :
      Holds true level (ps ++ [.and])
  | or {ps : List (Piece Check)} {f : Formula} (h : Derives .alternatives ps f) :
      Holds true { alternatives := some f } (ps ++ [.or])

/-- What was read in front of a level, on the levels around it. -/
inductive Level.Around : List Level → List (Piece Check) → Prop where
  | nil : Around [] []
  | cons {level : Level} {around : List Level} {before ps : List (Piece Check)}
      (h : Around around before) (hlevel : Holds true level ps) :
      Around (level :: around) (before ++ ps ++ [.opening])

section Levels

variable {level : Level} {ps ps' : List (Piece Check)} {f : Formula}

theorem Level.Holds.closed (h : Level.Holds false level ps) :
    ∃ f, level.closed? = some f ∧ Derives .alternatives ps f := by
  cases h with
  | first h => exact ⟨_, rfl, .only h⟩
  | behind h h' => exact ⟨_, rfl, .or h h'⟩

theorem Level.Holds.meet (h : Level.Holds true level ps) (h' : Derives .single ps' f) :
    Level.Holds false (level.meet f) (ps ++ ps') := by
  cases h with
  | start => exact .first (.alone h')
  | and h =>
      rw [List.append_assoc, List.singleton_append]
      cases h with
      | first h => exact .first (.and h h')
      | behind h hlast =>
          rw [List.append_assoc, List.cons_append]
          exact .behind h (.and hlast h')
  | or h =>
      rw [List.append_assoc, List.singleton_append]
      exact .behind h (.alone h')

/-- What is read is derived, together with what was read in front of it. -/
theorem derives_of_ofPieces? {awaiting : Bool} {around : List Level}
    {rest before : List (Piece Check)}
    (hread : Formula.ofPieces? awaiting level around rest = some f)
    (hlevel : Level.Holds awaiting level ps) (haround : Level.Around around before) :
    Derives .alternatives (before ++ ps ++ rest) f := by
  induction rest generalizing awaiting level around before ps with
  | nil =>
      rw [Formula.ofPieces?] at hread
      split at hread
      · contradiction
      · rename_i hdone
        obtain ⟨rfl, rfl⟩ : awaiting = false ∧ around = [] := by simpa using hdone
        obtain ⟨g, hclosed, hg⟩ := hlevel.closed
        cases haround
        rw [hclosed] at hread
        rw [← Option.some.inj hread]
        simpa using hg
  | cons piece rest ih =>
      cases piece with
      | test c =>
          cases awaiting with
          | false => contradiction
          | true =>
              have hnext := ih hread (hlevel.meet (.check c)) haround
              simpa using hnext
      | and =>
          cases awaiting with
          | true => contradiction
          | false =>
              have hnext := ih hread hlevel.and haround
              simpa using hnext
      | or =>
          cases awaiting with
          | true => contradiction
          | false =>
              obtain ⟨g, hclosed, hg⟩ := hlevel.closed
              rw [Formula.ofPieces?, if_neg (by simp), hclosed] at hread
              have hnext := ih hread (.or hg) haround
              simpa using hnext
      | opening =>
          cases awaiting with
          | false => contradiction
          | true =>
              have hnext := ih hread .start (haround.cons hlevel)
              simpa using hnext
      | closing =>
          cases awaiting with
          | true => contradiction
          | false =>
              obtain ⟨g, hclosed, hg⟩ := hlevel.closed
              cases haround with
              | nil => simp [Formula.ofPieces?] at hread
              | cons haround houter =>
                  simp only [Formula.ofPieces?, hclosed] at hread
                  have hnext := ih hread (houter.meet (.group hg)) haround
                  simpa using hnext

end Levels

/-- The reader finds the formula that the grammar derives, and no other one. -/
theorem ofPieces?_iff {ps : List (Piece Check)} {f : Formula} :
    Formula.ofPieces? true {} [] ps = some f ↔ Derives .alternatives ps f := by
  refine ⟨fun h => by simpa using derives_of_ofPieces? h .start .nil, fun h => ?_⟩
  obtain ⟨level, hlevel, hread⟩ := h.reads
  have hall := hread [] []
  rw [List.append_nil] at hall
  rw [hall, Formula.ofPieces?, if_neg (by simp), hlevel]

end RelationalMapper.Sql
