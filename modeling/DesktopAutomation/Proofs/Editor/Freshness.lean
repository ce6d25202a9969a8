import DesktopAutomation.Proofs.Editor.Capture
import DesktopAutomation.Proofs.Editor.Storing

/-! The id that is given to a captured step. It is the least id above those in use, so no step has
it, as long as none has the last id of all. Behind the last id there is none; it is given once more,
and the step that gets it is refused.
-/

namespace DesktopAutomation

namespace StepId

/-- The greatest of all ids. -/
def last : StepId := ⟨0xffffffffffffffff⟩

theorem toNat_le_last (id : StepId) : id.value.toNat ≤ last.value.toNat :=
  Nat.le_of_lt_succ id.value.toNat_lt

theorem eq_last_of_le {id : StepId} (great : last.value.toNat ≤ id.value.toNat) : id = last :=
  congrArg mk (UInt64.toNat_inj.mp (Nat.le_antisymm id.toNat_le_last great))

/-- The greater id is one of the two, and both are up to it. -/
theorem max_spec (a b : StepId)
    : (a.max b = a ∨ a.max b = b)
      ∧ a.value.toNat ≤ (a.max b).value.toNat
      ∧ b.value.toNat ≤ (a.max b).value.toNat := by
  rw [max]
  split
  · next less =>
    exact ⟨.inr rfl, Nat.le_of_lt (UInt64.lt_iff_toNat_lt.mp less), Nat.le_refl _⟩
  · next notLess =>
    exact ⟨.inl rfl, Nat.le_refl _, UInt64.le_iff_toNat_le.mp (UInt64.not_lt.mp notLess)⟩

/-- The greatest of some ids is one of them, and all are up to it. -/
theorem foldl_max_spec (id : StepId) (ids : List StepId)
    : ids.foldl max id ∈ id :: ids
      ∧ ∀ other ∈ id :: ids, other.value.toNat ≤ (ids.foldl max id).value.toNat := by
  induction ids generalizing id with
  | nil => exact ⟨List.mem_cons_self, fun other member => by simp_all⟩
  | cons next rest ih =>
      obtain ⟨isOne, upToFirst, upToNext⟩ := max_spec id next
      obtain ⟨listed, upTo⟩ := ih (id.max next)
      have first := upTo _ List.mem_cons_self
      rw [List.foldl_cons]
      constructor
      · rcases List.mem_cons.mp listed with same | inRest
        · rw [same]
          rcases isOne with same | same <;> rw [same] <;> simp
        · exact List.mem_cons_of_mem _ (List.mem_cons_of_mem _ inRest)
      · intro other member
        rcases List.mem_cons.mp member with rfl | member
        · exact Nat.le_trans upToFirst first
        · rcases List.mem_cons.mp member with rfl | inRest
          · exact Nat.le_trans upToNext first
          · exact upTo other (List.mem_cons_of_mem _ inRest)

end StepId

-----------------------------------------------------------------------------------------
-- The next id of a tree
-----------------------------------------------------------------------------------------

namespace StepTree
variable {tree : StepTree} {id : StepId}

/-- The next id is the one behind the greatest in use, if any is in use. -/
theorem nextId_spec (tree : StepTree)
    : (tree.nextId = ⟨0⟩ ∧ ∀ id, tree.contains id = false)
      ∨ ∃ greatest,
          tree.nextId = greatest.next
          ∧ tree.contains greatest = true
          ∧ ∀ id, tree.contains id = true → id.value.toNat ≤ greatest.value.toNat := by
  have inUse (id : StepId) : tree.contains id = true ↔ id ∈ tree.toList.map Step.id := contains_iff
  rw [nextId]
  cases ids : tree.toList.map Step.id with
  | nil =>
      refine .inl ⟨rfl, fun id => ?_⟩
      rw [Bool.eq_false_iff, ne_eq, inUse, ids]
      exact List.not_mem_nil
  | cons first rest =>
      obtain ⟨listed, upTo⟩ := StepId.foldl_max_spec first rest
      refine .inr ⟨_, rfl, (inUse _).mpr (ids ▸ listed), fun id isUsed => upTo id ?_⟩
      exact ids ▸ (inUse id).mp isUsed

/-- If the last id is in use, it is the next one as well. -/
theorem nextId_of_last (used : tree.contains .last = true) : tree.nextId = .last := by
  rcases tree.nextId_spec with ⟨-, unused⟩ | ⟨greatest, isNext, -, upTo⟩
  · rw [unused] at used
    cases used
  · rw [isNext, StepId.eq_last_of_le (upTo _ used)]
    rfl

/-- Otherwise the next id is above all ids in use. -/
theorem lt_nextId (unused : tree.contains .last = false) (used : tree.contains id = true)
    : id.value.toNat < tree.nextId.value.toNat := by
  rcases tree.nextId_spec with ⟨-, none⟩ | ⟨greatest, isNext, isUsed, upTo⟩
  · rw [none] at used
    cases used
  · have notLast : greatest.value.toNat ≠ StepId.last.value.toNat := by
      intro same
      rw [StepId.eq_last_of_le (Nat.le_of_eq same.symm), unused] at isUsed
      cases isUsed
    have below := greatest.toNat_le_last
    have size : StepId.last.value.toNat = Number.wordCount - 1 := rfl
    have upToGreatest := upTo id used
    rw [isNext, StepId.toNat_next]
    omega

/-- The next id is in use exactly if the last id is. -/
theorem contains_nextId (tree : StepTree) : tree.contains tree.nextId = tree.contains .last := by
  cases used : tree.contains .last with
  | true => rw [nextId_of_last used, used]
  | false =>
      rw [Bool.eq_false_iff]
      exact fun isUsed => Nat.lt_irrefl _ (lt_nextId used isUsed)

end StepTree

namespace EditorSession
variable {session : EditorSession} {step : Step} {parent : Option StepId}

-----------------------------------------------------------------------------------------
-- Steps that are refused for their ids
-----------------------------------------------------------------------------------------

/-- A step is refused for a taken id exactly if this is the first conflict of the new steps. -/
theorem add_stepIdTaken_iff {taken : StepId}
    : session.add step parent = .error (.conflict (.stepIdTaken taken))
      ↔ newcomerConflict? session.steps [] [] (walk [step]) = some (.stepIdTaken taken) := by
  constructor
  · intro refused
    rcases add_eq_error refused with
      ⟨conflict, newcomers, same⟩ | refusal | ⟨new, _, conflict, conflicts, same⟩
    · rwa [AutomationError.conflict.inj same]
    · obtain ⟨_, other | other⟩ := containerRefusal?_eq_some refusal <;> cases other
    · obtain rfl := AutomationError.conflict.inj same
      rcases stepConflict?_eq_some conflicts with ⟨_, _, other⟩ | ⟨⟨_, other⟩, _⟩ <;> cases other
  · intro conflict
    rw [add, conflict]

/-- A move is refused for a taken id exactly if its own is taken. -/
theorem add_move_stepIdTaken_iff {id taken : StepId} {target : Point}
    : session.add (.action id (.move target)) parent = .error (.conflict (.stepIdTaken taken))
      ↔ session.steps.contains id = true ∧ id = taken := by
  rw [add_stepIdTaken_iff, walk_eq_listingOf, listingOf_action]
  have declaresNone : (Step.action id (.move target)).declaredName? = none := rfl
  by_cases used : session.steps.contains id = true <;>
    simp [newcomerConflict?, used, declaresNone, listingOf]

theorem captureMove_eq_ok (captured : session.captureMove = .ok step)
    : ∃ target, step = .action session.nextId (.move target) := by
  rw [captureMove] at captured
  split at captured
  · next target _ => exact ⟨target, (Except.ok.inj captured).symm⟩
  · cases captured

-----------------------------------------------------------------------------------------
-- All sessions
-----------------------------------------------------------------------------------------

/-- What is told of the next id of a session: no step has it, and a step that is captured is never
refused for it.
-/
structure FreshNext (session : EditorSession) : Prop where
  unused : session.steps.contains session.nextId = false
  accepted
    : ∀ step, session.captureMove = .ok step
      → ∀ parent id, session.add step parent ≠ .error (.conflict (.stepIdTaken id))

/-- Whatever was done with a session, its next id is fresh exactly if no step has the last id. If
one has, the next id is this one, and a step that is captured is always refused for it.
-/
theorem performAll_freshNext_iff (session : EditorSession) (operations : List Operation)
    : let current := session.performAll operations
      (current.FreshNext ↔ current.steps.contains .last = false)
      ∧ (current.steps.contains .last = true
        → current.nextId = .last
          ∧ ∀ step, current.captureMove = .ok step
            → ∀ parent, current.add step parent = .error (.conflict (.stepIdTaken .last))) := by
  intro current
  have inUse : current.steps.contains current.nextId = current.steps.contains .last :=
    current.steps.contains_nextId
  constructor
  · constructor
    · exact fun fresh => inUse.symm.trans fresh.unused
    · intro unused
      refine ⟨inUse.trans unused, fun step captured parent id refused => ?_⟩
      obtain ⟨target, rfl⟩ := captureMove_eq_ok captured
      have used := (add_move_stepIdTaken_iff.mp refused).1
      rw [inUse, unused] at used
      cases used
  · intro used
    have isLast : current.nextId = .last := StepTree.nextId_of_last used
    refine ⟨isLast, fun step captured parent => ?_⟩
    obtain ⟨target, rfl⟩ := captureMove_eq_ok captured
    exact add_move_stepIdTaken_iff.mpr ⟨inUse.trans used, isLast⟩

/-- An empty automation takes a step with the last id, and then has no fresh one. -/
theorem not_performAll_freshNext
    : ¬∀ session : EditorSession,
        session.Starts → ∀ operations, (session.performAll operations).FreshNext := by
  intro always
  have fresh := always _ (.fresh (.blank .standard)) [.add (.action .last (.sleep 0)) none]
  exact absurd fresh.unused (by decide +kernel)

end EditorSession

end DesktopAutomation
