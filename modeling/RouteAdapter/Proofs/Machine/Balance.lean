import RouteAdapter.Proofs.Format.Code
import RouteAdapter.Proofs.Machine.Depth

/-!
# Balanced bodies

A straight-line body is balanced if every step finds the operands that it pops, no depth is above
the bound, and the only return is the last step and finds one value. The depth before a step is the
sum of what the steps before it add to the stack, so all this can be said without following the
depth from step to step, and for every kind of step at once.

* `StackUse.balanced_iff`: bodies whose steps use the stack alike are balanced alike;
* `Verify.balanced_iff`: the depth and return checks accept exactly the balanced bodies;
* `Verify.depthAt_eq_some`: the depth that is tracked before an instruction;
* `Function.verify_iff_wellFormed`: the functions that are verified.
-/

namespace RouteAdapter
open Verify

structure StackUse (α : Type) where
  returns : α → Prop
  pops : α → Nat
  delta : α → Int

namespace StackUse

variable {α β : Type} {s : StackUse α} {s' : StackUse β}

/-- The depth that steps reach from the empty stack. -/
def depth (s : StackUse α) : List α → Int
  | [] => 0
  | step :: steps => s.delta step + s.depth steps

structure Balanced (s : StackUse α) (steps : List α) : Prop where
  enough : ∀ before step after, steps = before ++ step :: after → s.pops step ≤ s.depth before
  bounded : ∀ before, before <+: steps → s.depth before ≤ maxDepth
  ends : ∃ before last, steps = before ++ [last] ∧ s.returns last ∧ s.depth before = 1 ∧
    ∀ step ∈ before, ¬s.returns step

@[simp] theorem depth_nil : s.depth [] = 0 := rfl

@[simp] theorem depth_cons (step : α) (steps : List α) :
    s.depth (step :: steps) = s.delta step + s.depth steps := rfl

@[simp] theorem depth_append (steps more : List α) :
    s.depth (steps ++ more) = s.depth steps + s.depth more := by
  induction steps with
  | nil => simp
  | cons step steps ih => simp [ih, Int.add_assoc]

/-! ## Steps that use the stack alike -/

structure Alike (s : StackUse α) (s' : StackUse β) (a : α) (b : β) : Prop where
  returns : s.returns a ↔ s'.returns b
  pops : s.pops a = s'.pops b
  delta : s.delta a = s'.delta b

theorem Alike.symm {a : α} {b : β} (alike : Alike s s' a b) : Alike s' s b a :=
  ⟨alike.returns.symm, alike.pops.symm, alike.delta.symm⟩

variable {as : List α} {bs : List β}

theorem depth_alike (alike : List.Forall₂ (Alike s s') as bs) : s.depth as = s'.depth bs := by
  induction alike with
  | nil => rfl
  | cons first _ ih => rw [depth_cons, depth_cons, first.delta, ih]

theorem Balanced.of_alike (balanced : s.Balanced as) (alike : List.Forall₂ (Alike s' s) bs as) :
    s'.Balanced bs := by
  constructor
  · rintro before step after rfl
    obtain ⟨front, back, rfl, same, rest⟩ := exists_append_of_forall₂ alike
    cases rest with
    | cons one _ =>
        rw [one.pops, depth_alike same]
        exact balanced.enough front _ _ rfl
  · rintro before ⟨after, rfl⟩
    obtain ⟨front, back, rfl, same, -⟩ := exists_append_of_forall₂ alike
    rw [depth_alike same]
    exact balanced.bounded front (List.prefix_append front back)
  · obtain ⟨before, last, rfl, returns, one, none⟩ := balanced.ends
    obtain ⟨front, back, rfl, same, rest⟩ :=
      exists_append_of_forall₂ (List.Forall₂.flip alike)
    cases rest with
    | cons final nothing =>
        cases nothing
        refine ⟨front, _, rfl, final.returns.mpr returns, ?_, fun step member ran => ?_⟩
        · rw [depth_alike (List.Forall₂.flip same), one]
        · obtain ⟨a, known, alike⟩ := exists_of_mem_forall₂_right same member
          exact none a known (alike.returns.mp ran)

theorem balanced_iff (alike : List.Forall₂ (Alike s s') as bs) :
    s.Balanced as ↔ s'.Balanced bs := by
  have back : List.Forall₂ (Alike s' s) bs as := alike.flip.imp fun _ _ one => one.symm
  exact ⟨fun balanced => balanced.of_alike back, fun balanced => balanced.of_alike alike⟩

end StackUse

/-! ## The verifier -/

namespace Verify

variable {m : Module} {body : List Located} {depth : Nat}

def stackUse (m : Module) : StackUse Located where
  returns i := i.instruction = .ret
  pops i := pops m i.instruction
  delta i := (pushes i.instruction : Int) - pops m i.instruction

/-- What the depth check asks of an instruction that finds this depth. -/
def Passes (m : Module) (depth : Int) (i : Located) : Prop :=
  (stackUse m).pops i ≤ depth ∧ ((stackUse m).returns i → depth = 1) ∧
    depth + (stackUse m).delta i ≤ maxDepth

theorem stepDepth_iff {i : Located} {after : Nat} :
    stepDepth m depth i = .ok after ↔
      Passes m depth i ∧ (after : Int) = depth + (stackUse m).delta i := by
  rw [stepDepth_ok]
  simp only [Passes, stackUse]
  constructor
  · rintro ⟨enough, one, bounded, total⟩
    exact ⟨⟨by omega, fun ret => by rw [one ret]; rfl, by omega⟩, by omega⟩
  · rintro ⟨⟨enough, one, bounded⟩, total⟩
    exact ⟨by omega, fun ret => by exact_mod_cast one ret, by omega, by omega⟩

theorem checkDepth_ok :
    checkDepth m depth body = .ok () ↔
      ∀ before i after, body = before ++ i :: after →
        Passes m (depth + (stackUse m).depth before) i := by
  induction body generalizing depth with
  | nil => simp [checkDepth]
  | cons first body ih =>
      simp only [checkDepth, bind_eq_ok, stepDepth_iff, ih]
      constructor
      · rintro ⟨next, ⟨passes, total⟩, rest⟩ before i after whole
        cases before with
        | nil =>
            obtain ⟨rfl, rfl⟩ := List.cons.inj whole
            rwa [StackUse.depth_nil, Int.add_zero]
        | cons b before =>
            obtain ⟨rfl, split⟩ := List.cons.inj whole
            rw [StackUse.depth_cons, ← Int.add_assoc, ← total]
            exact rest before i after split
      · intro all
        have passes := all [] first body rfl
        rw [StackUse.depth_nil, Int.add_zero] at passes
        have left : 0 ≤ depth + (stackUse m).delta first := by
          obtain ⟨enough, -, -⟩ := passes
          simp only [stackUse] at enough ⊢
          omega
        refine ⟨(depth + (stackUse m).delta first).toNat, ⟨passes, Int.toNat_of_nonneg left⟩, ?_⟩
        rintro before i after rfl
        rw [Int.toNat_of_nonneg left, Int.add_assoc, ← StackUse.depth_cons]
        exact all (first :: before) i after rfl

/-- The only return is the last step, so before it comes all the rest. -/
theorem eq_of_returns {α : Type} {returns : α → Prop} {before front back : List α} {last step : α}
    (whole : before ++ [last] = front ++ step :: back) (none : ∀ b ∈ before, ¬returns b)
    (ret : returns step) : front = before := by
  obtain rfl | ⟨back, b, rfl⟩ := List.eq_nil_or_concat' back
  · exact (List.append_inj_left' whole rfl).symm
  · rw [← List.cons_append, ← List.append_assoc] at whole
    obtain rfl := List.append_inj_left' whole rfl
    exact absurd ret (none step (by simp))

theorem balanced_iff :
    (stackUse m).Balanced body ↔ checkDepth m 0 body = .ok () ∧ checkReturn body = .ok () := by
  rw [checkDepth_ok, checkReturn_ok]
  simp only [Int.natCast_zero, Int.zero_add]
  constructor
  · rintro ⟨enough, bounded, before, ⟨offset, instruction⟩, rfl, ret, one, none⟩
    obtain rfl : instruction = .ret := ret
    refine ⟨fun front i back whole => ⟨enough front i back whole, fun returns => ?_, ?_⟩,
      before, offset, rfl, none⟩
    · rw [eq_of_returns whole none returns, one]
    · have step := bounded (front ++ [i]) ⟨back, by rw [whole]; simp⟩
      simpa using step
  · rintro ⟨passes, before, offset, rfl, none⟩
    obtain ⟨enough, one, bounded⟩ := passes before ⟨offset, .ret⟩ [] rfl
    refine ⟨fun front i back whole => (passes front i back whole).1, fun front within => ?_,
      before, _, rfl, rfl, one rfl, none⟩
    obtain rfl | ⟨front, i, rfl⟩ := List.eq_nil_or_concat' front
    · simp [maxDepth]
    · obtain ⟨back, whole⟩ := within
      rw [List.append_assoc] at whole
      simpa using (passes front i back whole.symm).2.2

theorem depthAt_eq_some {k d : Nat} :
    depthAt m depth body k = some d ↔
      k < body.length ∧ checkDepth m depth (body.take k) = .ok () ∧
        (d : Int) = depth + (stackUse m).depth (body.take k) := by
  induction body generalizing depth k with
  | nil => simp [depthAt]
  | cons i body ih =>
      cases k with
      | zero =>
          simp only [depthAt, Option.some.injEq, List.take_zero, checkDepth, StackUse.depth_nil,
            List.length_cons, Nat.zero_lt_succ, true_and]
          omega
      | succ k =>
          rw [List.take_succ_cons, StackUse.depth_cons, depthAt]
          cases step : stepDepth m depth i with
          | error e => simp [checkDepth, step, bind, Except.bind]
          | ok after =>
              have total := (stepDepth_iff.mp step).2
              simp only [ih, List.length_cons, Nat.add_lt_add_iff_right, checkDepth, step, total,
                Int.add_assoc]
              rfl

end Verify

/-! ## Verified functions -/

theorem Ty.isSome_ofPrimitiveTag? {tag : UInt8} :
    (ofPrimitiveTag? tag).isSome ↔ 1 ≤ tag ∧ tag ≤ 4 := by
  unfold ofPrimitiveTag?
  split
  · decide
  · decide
  · decide
  · decide
  · simp only [Option.isSome_none, Bool.false_eq_true, false_iff]
    grind

namespace Instruction

/-- How many values an instruction pops and pushes. -/
def effect : Instruction → Nat × Nat
  | loadCtx | constStr _ => (0, 1)
  | convert _ | box _ | noContent => (1, 1)
  | invokeAccessor _ argc => (1 + argc.toNat, 1)
  | invokeController _ argc => (argc.toNat, 1)
  | ret => (1, 0)

def stackUse : StackUse Instruction where
  returns i := i = .ret
  pops i := i.effect.1
  delta i := i.effect.2 - i.effect.1

/-- What an instruction refers to is there, and a call passes what its entry takes. -/
def Refers (f : Function) (m : Module) : Instruction → Prop
  | loadCtx => f.paramCount ≠ 0
  | constStr index => index.toNat < m.constants.strings.length
  | convert index => index.toNat < m.types.length
  | box tag => 1 ≤ tag ∧ tag ≤ 4
  | invokeAccessor index argc => ∃ a, m.accessors[index.toNat]? = some a ∧ a.arity = argc
  | invokeController index argc => ∃ r, m.methods[index.toNat]? = some r ∧ r.argCount = argc
  | noContent | ret => True

theorem refers_iff {f : Function} {m : Module} {i : Located} :
    checkRef f m i = .ok () ↔ i.instruction.Refers f m := by
  obtain ⟨offset, instruction⟩ := i
  cases instruction with
  | loadCtx => simp [checkRef, Refers]
  | constStr index => simp [checkRef, Refers]
  | convert index => simp [checkRef, Refers]
  | box tag => simp [checkRef, Refers, Ty.isSome_ofPrimitiveTag?]
  | noContent => simp [checkRef, Refers]
  | ret => simp [checkRef, Refers]
  | invokeAccessor index argc =>
      cases entry : m.accessors[index.toNat]? <;> simp [checkRef, Refers, entry, checkCount]
  | invokeController index argc =>
      cases entry : m.methods[index.toNat]? <;> simp [checkRef, Refers, entry, checkCount]

theorem alike_of_refers {f : Function} {m : Module} {i : Located}
    (refers : i.instruction.Refers f m) :
    StackUse.Alike stackUse (Verify.stackUse m) i.instruction i := by
  obtain ⟨offset, instruction⟩ := i
  cases instruction with
  | invokeAccessor index argc =>
      obtain ⟨a, entry, rfl⟩ := refers
      have pops : Verify.pops m (.invokeAccessor index a.arity) = 1 + a.arity.toNat := by
        simp only [Verify.pops, entry, Option.elim_some]
      exact ⟨Iff.rfl, pops.symm, by simp only [stackUse, effect, Verify.stackUse, pops, pushes]⟩
  | _ => exact ⟨Iff.rfl, rfl, rfl⟩

end Instruction

/-- The code of a function is this body, which refers to nothing that is missing and is balanced. -/
structure Function.WellFormed (f : Function) (m : Module) (body : List Instruction) : Prop where
  code : f.code = Code.encode body
  refers : ∀ i ∈ body, i.Refers f m
  balanced : Instruction.stackUse.Balanced body

theorem Instruction.alike_locate {f : Function} {m : Module} {body : List Instruction}
    (refers : ∀ i ∈ body, i.Refers f m) (offset : Nat) :
    List.Forall₂ (StackUse.Alike stackUse (Verify.stackUse m)) body (Code.locate offset body) := by
  have same : List.Forall₂ (fun i j => i = j ∧ i.Refers f m) body body :=
    List.forall₂_same.mpr fun i member => ⟨rfl, refers i member⟩
  refine (Code.forall₂_locate same offset).imp ?_
  rintro i located ⟨rfl, refers⟩
  exact alike_of_refers refers

theorem Function.verify_iff_wellFormed {f : Function} {m : Module} :
    f.verify m = .ok () ↔ ∃ body, f.WellFormed m body := by
  have located (body : List Instruction) :
      List.Forall₂ (fun i (l : Located) => i = l.instruction) body (Code.locate 0 body) :=
    Code.forall₂_locate (List.forall₂_same.mpr fun _ _ => rfl) 0
  rw [verify_ok]
  constructor
  · rintro ⟨read, decoded, refs, depths, returns⟩
    obtain ⟨body, code, rfl⟩ := Code.decode_ok.mp decoded
    have refers : ∀ i ∈ body, i.Refers f m := by
      intro i member
      obtain ⟨l, known, rfl⟩ := exists_of_mem_forall₂ (located body) member
      exact Instruction.refers_iff.mp (refs l known)
    refine ⟨body, code, refers, ?_⟩
    rw [StackUse.balanced_iff (Instruction.alike_locate refers 0)]
    exact Verify.balanced_iff.mpr ⟨depths, returns⟩
  · rintro ⟨body, code, refers, balanced⟩
    rw [StackUse.balanced_iff (Instruction.alike_locate refers 0)] at balanced
    refine ⟨_, Code.decode_ok.mpr ⟨body, code, rfl⟩, fun l member => ?_,
      Verify.balanced_iff.mp balanced⟩
    obtain ⟨i, known, rfl⟩ := exists_of_mem_forall₂_right (located body) member
    exact Instruction.refers_iff.mpr (refers _ known)

end RouteAdapter
