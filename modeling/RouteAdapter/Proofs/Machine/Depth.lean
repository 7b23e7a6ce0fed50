import RouteAdapter.Proofs.Machine.Linking
import RouteAdapter.Proofs.Machine.Trace

/-!
# Tracked depths

The verifier follows the depth of the operand stack through a body that it never runs. Along the
resolved body the tracked depth bounds the actual one from below, if no accessor takes more operands
than the module says, and both are equal, if every accessor takes exactly as many.

* `Function.verify_ok`: what a verified function has passed;
* `Machine.stackAt_tracked`: tracked and actual depth at every reached instruction;
* `Machine.runFrom_bound`: the only structural fault of a bound body that returns;
* `LoadedFunction.simulates_verify`: the whole run of a verified function.
-/

namespace RouteAdapter

namespace Verify

variable {f : Function} {m : Module} {body : List Located} {depth : Nat}

/-! ## The passes of the verifier -/

theorem checkRefs_ok : checkRefs f m body = .ok () ↔ ∀ i ∈ body, checkRef f m i = .ok () := by
  induction body with
  | nil => simp [checkRefs]
  | cons i body ih =>
      simp only [checkRefs, bind_eq_ok, List.forall_mem_cons, ih]
      exact ⟨fun ⟨⟨⟩, first, rest⟩ => ⟨first, rest⟩, fun ⟨first, rest⟩ => ⟨(), first, rest⟩⟩

theorem stepDepth_ok {i : Located} {after : Nat} :
    stepDepth m depth i = .ok after ↔
      pops m i.instruction ≤ depth ∧ (i.instruction = .ret → depth = 1) ∧ after ≤ maxDepth ∧
        after + pops m i.instruction = depth + pushes i.instruction := by
  unfold stepDepth
  dsimp only
  split
  · rename_i few
    simp only [reduceCtorEq, false_iff]
    omega
  · rename_i enough
    split
    · rename_i unbalanced
      simp only [reduceCtorEq, false_iff]
      exact fun ⟨_, balanced, _⟩ => unbalanced.2 (balanced unbalanced.1)
    · rename_i balanced
      have one : i.instruction = .ret → depth = 1 := fun ret =>
        Decidable.byContradiction fun other => balanced ⟨ret, other⟩
      split
      · simp only [reduceCtorEq, false_iff]
        omega
      · rw [Except.ok.injEq]
        constructor
        · rintro rfl
          exact ⟨by omega, one, by omega, by omega⟩
        · intro ⟨_, _, _, total⟩
          omega

/-- The depth check knows a module by what its instructions pop. -/
theorem checkDepth_eq_of_pops {n : Module}
    (same : ∀ i ∈ body, pops n i.instruction = pops m i.instruction) (depth : Nat) :
    checkDepth n depth body = checkDepth m depth body := by
  induction body generalizing depth with
  | nil => rfl
  | cons i body ih =>
      obtain ⟨first, rest⟩ := List.forall_mem_cons.mp same
      simp only [checkDepth, stepDepth, first, ih rest]

/-- The depth tracked before the `k`-th instruction. -/
def depthAt (m : Module) (depth : Nat) : List Located → Nat → Option Nat
  | [], _ => none
  | _ :: _, 0 => some depth
  | i :: body, k + 1 =>
    match stepDepth m depth i with
    | .ok after => depthAt m after body k
    | .error _ => none

theorem depthAt_le_maxDepth {k d : Nat} (start : depth ≤ maxDepth)
    (tracked : depthAt m depth body k = some d) : d ≤ maxDepth := by
  induction body generalizing depth k with
  | nil => simp [depthAt] at tracked
  | cons i body ih =>
      cases k with
      | zero =>
          cases tracked
          exact start
      | succ k =>
          simp only [depthAt] at tracked
          split at tracked
          · rename_i after passed
            obtain ⟨-, -, bounded, -⟩ := stepDepth_ok.mp passed
            exact ih bounded tracked
          · cases tracked

theorem checkReturn_ok :
    checkReturn body = .ok () ↔
      ∃ before offset, body = before ++ [⟨offset, .ret⟩] ∧ ∀ i ∈ before, i.instruction ≠ .ret := by
  induction body with
  | nil => simp [checkReturn]
  | cons i body ih =>
      cases body with
      | nil =>
          simp only [checkReturn]
          constructor
          · intro checked
            split at checked
            · rename_i last
              obtain ⟨offset, instruction⟩ := i
              exact ⟨[], offset, by rw [← last]; rfl, nofun⟩
            · cases checked
          · rintro ⟨before, offset, whole, -⟩
            cases before with
            | nil =>
                cases whole
                rfl
            | cons first before => simp at whole
      | cons next body =>
          simp only [checkReturn]
          constructor
          · intro checked
            split at checked
            · cases checked
            · rename_i first
              obtain ⟨before, offset, whole, none⟩ := ih.mp checked
              refine ⟨i :: before, offset, by rw [whole]; rfl, ?_⟩
              exact List.forall_mem_cons.mpr ⟨first, none⟩
          · rintro ⟨before, offset, whole, none⟩
            cases before with
            | nil => simp at whole
            | cons first before =>
                obtain ⟨rfl, rest⟩ := List.cons.inj whole
                obtain ⟨first, others⟩ := List.forall_mem_cons.mp none
                rw [if_neg first]
                exact ih.mpr ⟨before, offset, rest, others⟩

theorem last_of_checkReturn (returns : checkReturn body = .ok ()) {k : Nat} {i : Located}
    (entry : body[k]? = some i) (ret : i.instruction = .ret) : k + 1 = body.length := by
  obtain ⟨before, offset, rfl, none⟩ := checkReturn_ok.mp returns
  obtain ⟨known, -⟩ := List.getElem?_eq_some_iff.mp entry
  rw [List.length_append, List.length_singleton] at known ⊢
  by_cases early : k < before.length
  · rw [List.getElem?_append_left early] at entry
    exact absurd ret (none i (List.mem_of_getElem? entry))
  · omega

end Verify

open Verify

theorem Function.verify_ok {f : Function} {m : Module} :
    f.verify m = .ok () ↔
      ∃ body, Code.decode f.code = .ok body ∧ (∀ i ∈ body, checkRef f m i = .ok ()) ∧
        checkDepth m 0 body = .ok () ∧ checkReturn body = .ok () := by
  unfold Function.verify Verify.body
  cases Code.decode f.code with
  | error e => cases e <;> simp [bind, Except.bind]
  | ok body =>
      simp only [bind_eq_ok, Except.ok.injEq, exists_eq_left']
      constructor
      · rintro ⟨⟨⟩, refs, ⟨⟩, depths, returns⟩
        exact ⟨checkRefs_ok.mp refs, depths, returns⟩
      · rintro ⟨refs, depths, returns⟩
        exact ⟨(), checkRefs_ok.mpr refs, (), depths, returns⟩

theorem Module.verify_ok {m : Module} :
    m.verify = .ok () ↔ m.validate = .ok () ∧ ∀ f ∈ m.functions, f.verify m = .ok () := by
  have functions (fs : List Function) :
      m.verifyFunctions fs = .ok () ↔ ∀ f ∈ fs, f.verify m = .ok () := by
    induction fs with
    | nil => simp [verifyFunctions]
    | cons f fs ih =>
        simp only [verifyFunctions, bind_eq_ok, List.forall_mem_cons, ih]
        exact ⟨fun ⟨⟨⟩, first, rest⟩ => ⟨first, rest⟩, fun ⟨first, rest⟩ => ⟨(), first, rest⟩⟩
  simp only [verify, bind_eq_ok, mapError_eq_ok]
  constructor
  · rintro ⟨⟨⟩, valid, verified⟩
    exact ⟨valid, (functions _).mp verified⟩
  · rintro ⟨valid, verified⟩
    exact ⟨(), valid, (functions _).mpr verified⟩

/-! ## Operands -/

/-- At most as much, and just as much where counts are exact. -/
def AtMost (exact : Prop) (less more : Nat) : Prop :=
  less ≤ more ∧ (exact → less = more)

theorem AtMost.refl (exact : Prop) (n : Nat) : AtMost exact n n :=
  ⟨Nat.le_refl n, fun _ => rfl⟩

theorem AtMost.step {exact : Prop} {depth after taken size left popped : Nat}
    (within : AtMost exact depth size) (pops : AtMost exact popped taken)
    (tracked : after + taken = depth + 1) (actual : left + popped = size + 1) :
    AtMost exact after left := by
  obtain ⟨below, same⟩ := within
  obtain ⟨fewer, alike⟩ := pops
  refine ⟨by omega, fun counts => ?_⟩
  have depths := same counts
  have operands := alike counts
  omega

/-- The entries that instructions can refer to declare the operands of the accessors bound to
them. -/
def AccessorRef.Declare (exact : Prop) (refs : List AccessorRef) (accessors : List Accessor) :
    Prop :=
  ∀ i < UInt32.size, ∀ a accessor, refs[i]? = some a → accessors[i]? = some accessor →
    AtMost exact accessor.arity a.arity.toNat

namespace Resolved

variable {f : Function} {m : Module} {accessors : List Accessor} {methods : List Linked}
  {i : Located} {r : Resolved}

theorem exists_of_checkRef (checked : checkRef f m i = .ok ())
    (bound : accessors.length = m.accessors.length) :
    ∃ r, ofInstruction m accessors i = .ok r := by
  obtain ⟨offset, instruction⟩ := i
  cases instruction with
  | loadCtx => exact ⟨_, rfl⟩
  | noContent => exact ⟨_, rfl⟩
  | ret => exact ⟨_, rfl⟩
  | constStr index =>
      simp only [checkRef] at checked
      split at checked
      · rename_i known
        have found : m.constants.get? index = some _ := List.getElem?_eq_getElem known
        exact ⟨_, by simp only [ofInstruction, found]; rfl⟩
      · cases checked
  | convert index =>
      simp only [checkRef] at checked
      split at checked
      · rename_i known
        exact ⟨_, by simp only [ofInstruction, List.getElem?_eq_getElem known]; rfl⟩
      · cases checked
  | box tag =>
      simp only [checkRef] at checked
      split at checked
      · rename_i known
        obtain ⟨ty, found⟩ := Option.isSome_iff_exists.mp known
        exact ⟨_, by simp only [ofInstruction, found]; rfl⟩
      · cases checked
  | invokeAccessor index argc =>
      simp only [checkRef] at checked
      split at checked
      · rename_i a entry
        obtain ⟨known, -⟩ := List.getElem?_eq_some_iff.mp entry
        rw [← bound] at known
        exact ⟨_, by simp only [ofInstruction, List.getElem?_eq_getElem known]; rfl⟩
      · cases checked
  | invokeController index argc =>
      simp only [checkRef] at checked
      split at checked
      · rename_i ref entry
        obtain ⟨known, -⟩ := List.getElem?_eq_some_iff.mp entry
        exact ⟨_, if_pos known⟩
      · cases checked

theorem entry_ok {α β : Type} {found : Option α} {e : VerifyError} {g : α → β} {b : β} :
    entry found e g = .ok b ↔ ∃ a, found = some a ∧ g a = b := by
  cases found <;> simp [entry]

theorem bound_of_instruction (resolved : ofInstruction m accessors i = .ok r)
    (linked : methods.length = m.methods.length) :
    r.Bound methods ∧ (r = .ret ↔ i.instruction = .ret) := by
  obtain ⟨offset, instruction⟩ := i
  cases instruction with
  | loadCtx =>
      cases resolved
      exact ⟨trivial, by simp⟩
  | noContent =>
      cases resolved
      exact ⟨trivial, by simp⟩
  | ret =>
      cases resolved
      exact ⟨trivial, by simp⟩
  | constStr index =>
      obtain ⟨s, -, rfl⟩ := entry_ok.mp resolved
      exact ⟨trivial, by simp⟩
  | convert index =>
      obtain ⟨ty, -, rfl⟩ := entry_ok.mp resolved
      exact ⟨trivial, by simp⟩
  | box tag =>
      obtain ⟨ty, -, rfl⟩ := entry_ok.mp resolved
      exact ⟨trivial, by simp⟩
  | invokeAccessor index argc =>
      obtain ⟨accessor, -, rfl⟩ := entry_ok.mp resolved
      exact ⟨trivial, by simp⟩
  | invokeController index argc =>
      simp only [ofInstruction] at resolved
      split at resolved
      · rename_i known
        cases resolved
        exact ⟨Nat.lt_of_lt_of_eq known linked.symm, by simp⟩
      · cases resolved

theorem pops_of_instruction {exact : Prop} (resolved : ofInstruction m accessors i = .ok r)
    (declared : AccessorRef.Declare exact m.accessors accessors)
    (bound : accessors.length = m.accessors.length) :
    AtMost exact r.pops (Verify.pops m i.instruction) := by
  obtain ⟨offset, instruction⟩ := i
  cases instruction with
  | loadCtx =>
      cases resolved
      exact .refl exact 0
  | noContent =>
      cases resolved
      exact .refl exact 1
  | ret =>
      cases resolved
      exact .refl exact 1
  | constStr index =>
      obtain ⟨s, -, rfl⟩ := entry_ok.mp resolved
      exact .refl exact 0
  | convert index =>
      obtain ⟨ty, -, rfl⟩ := entry_ok.mp resolved
      exact .refl exact 1
  | box tag =>
      obtain ⟨ty, -, rfl⟩ := entry_ok.mp resolved
      exact .refl exact 1
  | invokeAccessor index argc =>
      obtain ⟨accessor, found, rfl⟩ := entry_ok.mp resolved
      obtain ⟨known, -⟩ := List.getElem?_eq_some_iff.mp found
      have entry := List.getElem?_eq_getElem (bound ▸ known)
      obtain ⟨fewer, alike⟩ := declared index.toNat index.toNat_lt _ accessor entry found
      simp only [AtMost, Resolved.pops, Verify.pops, entry, Option.elim_some]
      exact ⟨by omega, fun counts => by rw [alike counts, Nat.add_comm]⟩
  | invokeController index argc =>
      simp only [ofInstruction] at resolved
      split at resolved
      · cases resolved
        exact .refl exact _
      · cases resolved

/-- What tracking needs to know of an instruction and what it is resolved to. -/
structure Counted (m : Module) (methods : List Linked) (exact : Prop) (i : Located)
    (r : Resolved) : Prop where
  bound : r.Bound methods
  pops : AtMost exact r.pops (Verify.pops m i.instruction)
  ret : r = .ret ↔ i.instruction = .ret

end Resolved

/-! ## Runs -/

namespace Machine

variable {m : Module} {methods : List Linked} {exact : Prop} {ctx : Context} {stack found : Stack}
  {body : List Located} {code : List Resolved} {depth k : Nat}

/-- An instruction that is reached has passed the depth check with no more than the operands that
are there. -/
theorem stackAt_tracked (counted : List.Forall₂ (Resolved.Counted m methods exact) body code)
    (checked : checkDepth m depth body = .ok ()) (start : AtMost exact depth stack.length)
    (reached : stackAt ctx methods stack code k = some found) :
    ∃ i r d after, body[k]? = some i ∧ code[k]? = some r ∧ Resolved.Counted m methods exact i r ∧
      depthAt m depth body k = some d ∧ stepDepth m d i = .ok after ∧
        AtMost exact d found.length := by
  induction counted generalizing depth stack k with
  | nil => cases reached
  | @cons i r body code first rest ih =>
      simp only [checkDepth, bind_eq_ok] at checked
      obtain ⟨after, passed, others⟩ := checked
      cases k with
      | zero =>
          cases reached
          exact ⟨i, r, depth, after, rfl, rfl, first, rfl, passed, start⟩
      | succ k =>
          have effect := step_effect ctx stack first.bound
          simp only [stackAt] at reached
          split at reached
          · rename_i left next
            rw [next] at effect
            obtain ⟨going, enough, actual⟩ := effect
            obtain ⟨-, -, -, tracked⟩ := stepDepth_ok.mp passed
            have pushed : pushes i.instruction = 1 := by
              cases kind : i.instruction <;> first | rfl | exact absurd (first.ret.mpr kind) going
            rw [pushed] at tracked
            have within := start.step first.pops tracked actual
            obtain ⟨i', r', d, after', entry, resolved, same, at_, passes, below⟩ :=
              ih others within reached
            refine ⟨i', r', d, after', entry, resolved, same, ?_, passes, below⟩
            simp only [depthAt, passed, at_]
          · cases reached

theorem mem_ret_of_checkReturn
    (alike : List.Forall₂ (fun i r => r = Resolved.ret ↔ i.instruction = .ret) body code)
    (returns : checkReturn body = .ok ()) : .ret ∈ code := by
  obtain ⟨before, offset, rfl, -⟩ := checkReturn_ok.mp returns
  obtain ⟨r, member, same⟩ := exists_of_mem_forall₂ alike (a := ⟨offset, .ret⟩) (by simp)
  exact same.mpr rfl ▸ member

theorem runFrom_tracked (ctx : Context)
    (counted : List.Forall₂ (Resolved.Counted m methods exact) body code)
    (checked : checkDepth m 0 body = .ok ()) (returns : checkReturn body = .ok ()) :
    match (runFrom ctx methods [] code).2 with
    | .ok v => ∃ k found, code[k]? = some .ret ∧ stackAt ctx methods [] code k = some found ∧
        found.head? = some v
    | .error e => e.isStructural = false := by
  have bound : ∀ r ∈ code, r.Bound methods := by
    intro r member
    obtain ⟨i, -, same⟩ := exists_of_mem_forall₂_right counted member
    exact same.bound
  have ret := mem_ret_of_checkReturn (counted.imp fun _ _ same => same.ret) returns
  have ends := runFrom_bound ctx [] bound ret
  cases result : (runFrom ctx methods [] code).2 with
  | ok v =>
      rw [result] at ends
      exact ends
  | error e =>
      rw [result] at ends
      cases structural : e.isStructural with
      | false => exact structural
      | true =>
          obtain ⟨-, k, r, found, entry, reached, few⟩ := ends structural
          have start : AtMost exact 0 ([] : Stack).length := .refl exact 0
          obtain ⟨i, r', d, after, -, same, operands, -, passed, below⟩ :=
            stackAt_tracked counted checked start reached
          cases entry.symm.trans same
          obtain ⟨enough, -⟩ := stepDepth_ok.mp passed
          have fewer := operands.pops.1
          have least := below.1
          omega

end Machine

namespace LoadedFunction

section

variable {f : Function} {m : Module} {accessors : List Accessor} {methods : List Linked}

theorem exists_load_of_length (verified : f.verify m = .ok ())
    (bound : accessors.length = m.accessors.length) :
    ∃ loaded, load f m accessors = .ok loaded := by
  obtain ⟨body, decoded, refs, -, -⟩ := Function.verify_ok.mp verified
  obtain ⟨code, resolved⟩ := exists_forall₂ fun i member =>
    Resolved.exists_of_checkRef (refs i member) bound
  exact ⟨⟨f.name, code⟩, load_ok.mpr ⟨body, decoded, rfl, resolved⟩⟩

theorem bound_of_load {loaded : LoadedFunction} (load : load f m accessors = .ok loaded)
    (linked : methods.length = m.methods.length) : ∀ r ∈ loaded.code, r.Bound methods := by
  intro r member
  obtain ⟨body, -, -, resolved⟩ := load_ok.mp load
  obtain ⟨i, -, found⟩ := exists_of_mem_forall₂_right resolved member
  exact (Resolved.bound_of_instruction found linked).1

theorem exists_of_verify {exact : Prop} (verified : f.verify m = .ok ())
    (declared : AccessorRef.Declare exact m.accessors accessors)
    (bound : accessors.length = m.accessors.length) (linked : methods.length = m.methods.length) :
    ∃ body loaded, Code.decode f.code = .ok body ∧ load f m accessors = .ok loaded ∧
      checkDepth m 0 body = .ok () ∧ checkReturn body = .ok () ∧
        List.Forall₂ (Resolved.Counted m methods exact) body loaded.code := by
  obtain ⟨body, decoded, -, depths, returns⟩ := Function.verify_ok.mp verified
  obtain ⟨loaded, load⟩ := exists_load_of_length verified bound
  obtain ⟨body', decoded', -, resolved⟩ := load_ok.mp load
  cases decoded.symm.trans decoded'
  refine ⟨body, loaded, decoded, load, depths, returns, resolved.imp fun i r found => ?_⟩
  obtain ⟨called, ret⟩ := Resolved.bound_of_instruction found linked
  exact ⟨called, Resolved.pops_of_instruction found declared bound, ret⟩

end

/-- The depth check simulates every run of a verified function whose accessors have the declared
arities. A run ends with the only value at its return, or with the failure of an instruction that it
reached. -/
theorem simulates_verify {f : Function} {m : Module} {h : HandlerRegistry}
    {accessors : List Accessor} {methods : List Linked} (verified : f.verify m = .ok ())
    (arities : accessors.map Accessor.arity = m.accessors.map fun a => a.arity.toNat)
    (linked : Linked.ofTable h m.methods = .ok methods) :
    ∃ body loaded, Code.decode f.code = .ok body ∧ load f m accessors = .ok loaded ∧
      ∀ ctx,
        (∀ k found, Machine.stackAt ctx methods [] loaded.code k = some found →
          depthAt m 0 body k = some found.length ∧ found.length ≤ maxDepth ∧
            (loaded.code[k]? = some .ret → found.length = 1)) ∧
        match (loaded.execute ctx methods).2 with
        | .ok v => ∃ k, k + 1 = loaded.code.length ∧ loaded.code[k]? = some .ret ∧
            Machine.stackAt ctx methods [] loaded.code k = some [v]
        | .error e => e.isStructural = false ∧
            ∃ k r found, Machine.Does ctx methods [] loaded.code k r found (.failed e) := by
  have bound : accessors.length = m.accessors.length := by
    simpa only [List.length_map] using congrArg List.length arities
  have declared : AccessorRef.Declare True m.accessors accessors := by
    intro i _ a accessor entry found
    have same := congrArg (·[i]?) arities
    simp only [List.getElem?_map, entry, found, Option.map_some, Option.some.injEq] at same
    exact same ▸ AtMost.refl True _
  have table := (Linked.ofTable_ok.mp linked).length_eq
  obtain ⟨body, loaded, decoded, load, depths, returns, counted⟩ :=
    exists_of_verify verified declared bound table.symm
  refine ⟨body, loaded, decoded, load, fun ctx => ?_⟩
  have tracked : ∀ k found, Machine.stackAt ctx methods [] loaded.code k = some found →
      depthAt m 0 body k = some found.length ∧ found.length ≤ maxDepth ∧
        (loaded.code[k]? = some .ret → found.length = 1) := by
    intro k found reached
    have start : AtMost True 0 ([] : Machine.Stack).length := .refl True 0
    obtain ⟨i, r, d, after, -, entry, same, at_, passed, -, exact_⟩ :=
      Machine.stackAt_tracked counted depths start reached
    obtain ⟨enough, balanced, bounded, total⟩ := stepDepth_ok.mp passed
    obtain rfl := exact_ trivial
    refine ⟨at_, depthAt_le_maxDepth (Nat.zero_le maxDepth) at_, fun ret => ?_⟩
    rw [entry, Option.some.injEq] at ret
    exact balanced (same.ret.mp ret)
  refine ⟨tracked, ?_⟩
  have ends := Machine.runFrom_tracked ctx counted depths returns
  cases result : (loaded.execute ctx methods).2 with
  | error e =>
      rw [LoadedFunction.execute] at result
      rw [result] at ends
      exact ⟨ends, Machine.does_of_error result ends⟩
  | ok v =>
      rw [LoadedFunction.execute] at result
      rw [result] at ends
      obtain ⟨k, found, entry, reached, top⟩ := ends
      have one := (tracked k found reached).2.2 entry
      obtain ⟨w, rfl⟩ := List.length_eq_one_iff.mp one
      cases top
      obtain ⟨i, instruction, same⟩ := getElem?_of_forall₂ counted.flip entry
      have last := last_of_checkReturn returns instruction (same.ret.mp rfl)
      exact ⟨k, counted.length_eq ▸ last, entry, reached⟩

def showId : Function :=
  ⟨"show", 1, 1, Code.encode
    [.loadCtx, .constStr 0, .invokeAccessor 0 1, .convert 0, .invokeController 0 1, .box 2, .ret]⟩

def showModule : Module :=
  { Module.named "Users$Adapter" with
    constants := Pool.ofStrings ["id"]
    accessors := [⟨"path", "(str)->value", 1⟩]
    methods := [⟨"Users.show", "(i32)->i32", 1⟩]
    types := [.i32]
    functions := [showId] }

def showHandlers : HandlerRegistry :=
  HandlerRegistry.empty.register "Users.show" "(i32)->i32" fun _ args => .ok (args.headD .noContent)

theorem simulates_verify_showId :
    ∃ methods body loaded, Linked.ofTable showHandlers showModule.methods = .ok methods ∧
      showId.verify showModule = .ok () ∧ Code.decode showId.code = .ok body ∧
      load showId showModule [.single .path] = .ok loaded ∧
      ∀ ctx k found, Machine.stackAt ctx methods [] loaded.code k = some found →
        depthAt showModule 0 body k = some found.length := by
  have verified : showId.verify showModule = .ok () := rfl
  have arities : [Accessor.single .path].map Accessor.arity =
      showModule.accessors.map fun a => a.arity.toNat := rfl
  have linked : Linked.ofTable showHandlers showModule.methods = .ok _ := rfl
  obtain ⟨body, loaded, decoded, load, runs⟩ :=
    simulates_verify verified arities linked
  exact ⟨_, body, loaded, linked, verified, decoded, load,
    fun ctx k found reached => ((runs ctx).1 k found reached).1⟩

end LoadedFunction

end RouteAdapter
