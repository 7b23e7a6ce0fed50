import RouteAdapter.Proofs.Binding.Arguments
import RouteAdapter.Proofs.Machine.Safety
import RouteAdapter.Proofs.Ty.Descriptor

/-!
# Arities of calls

A call takes as many arguments from the stack as its instruction says, and the verifier compares
that with the count of the entry of the method table. The entry is bound by its symbol and
descriptor, and nothing compares its count with the descriptor. So handlers get the arguments that
their descriptors declare exactly if the entries count them rightly.

* `Machine.runFrom_calls`: the instruction behind a call;
* `LoadedClass.entry_of_call`: the entry behind a call;
* `LoadedClass.exists_load_calling`: a class that makes a given call;
* `LoadedClass.arities_iff`: when all calls are as declared.
-/

namespace RouteAdapter
open Verify

/-- A descriptor of well-formed types has so many parameters. -/
def DeclaresArity (descriptor : String) (count : Nat) : Prop :=
  ∀ params returns, (∀ ty ∈ params, ty.WellFormed) → returns.WellFormed →
    descriptor = methodDescriptor params returns → params.length = count

theorem declaresArity_methodDescriptor {params : List Ty} {returns : Ty} {count : Nat}
    (wellFormed : ∀ ty ∈ params, ty.WellFormed) (result : returns.WellFormed) :
    DeclaresArity (methodDescriptor params returns) count ↔ params.length = count := by
  constructor
  · exact fun declares => declares params returns wellFormed result rfl
  · intro length others other wellFormed' result' same
    obtain ⟨rfl, -⟩ := methodDescriptor_injective wellFormed wellFormed' result result' same
    exact length

/-- The handler that is called gets as many arguments as it is registered for. -/
def Call.Counted (h : HandlerRegistry) (call : Call) : Prop :=
  ∃ r, h.get? call.symbol = some r ∧ DeclaresArity r.descriptor call.args.length

/-! ## Calls of a run -/

namespace Machine

variable {ctx : Context} {methods : List Linked} {call : Call}

theorem step_calls {stack : Stack} {r : Resolved} (made : call ∈ (step ctx methods stack r).1) :
    ∃ method linked, r = .invokeController method call.args.length ∧
      methods[method]? = some linked ∧ linked.symbol = call.symbol := by
  cases r with
  | loadCtx | constStr => cases made
  | invokeAccessor a =>
      rw [step] at made
      cases args : accessorArgs a stack <;> simp [args] at made
  | convert ty =>
      cases stack with
      | nil => cases made
      | cons v rest =>
          rw [step] at made
          cases converted : v.convert ty <;> simp [converted] at made
  | invokeController method argc =>
      rw [step, callController] at made
      split at made
      · cases made
      · rename_i enough
        dsimp only at made
        split at made
        · cases made
        · rename_i linked entry
          obtain rfl := List.mem_singleton.mp made
          refine ⟨method, linked, ?_, entry, rfl⟩
          rw [List.length_reverse, List.length_take, Nat.min_eq_left (Nat.le_of_not_lt enough)]
  | noContent | ret => cases stack <;> cases made
  | box ty =>
      cases stack with
      | nil => cases made
      | cons v rest =>
          rw [step] at made
          cases conforms : v.conforms ty <;> simp [conforms] at made

theorem runFrom_calls {stack : Stack} {code : List Resolved}
    (made : call ∈ (runFrom ctx methods stack code).1) :
    ∃ method linked, .invokeController method call.args.length ∈ code ∧
      methods[method]? = some linked ∧ linked.symbol = call.symbol := by
  induction code generalizing stack with
  | nil => cases made
  | cons r code ih =>
      have here (first : call ∈ (step ctx methods stack r).1) :
          ∃ method linked, .invokeController method call.args.length ∈ r :: code ∧
            methods[method]? = some linked ∧ linked.symbol = call.symbol := by
        obtain ⟨method, linked, rfl, found⟩ := step_calls first
        exact ⟨method, linked, List.mem_cons_self, found⟩
      rw [runFrom] at made
      rcases did : step ctx methods stack r with ⟨calls, outcome⟩
      rw [did] at made here
      cases outcome with
      | returned v => exact here made
      | failed e => exact here made
      | next after =>
          rcases List.mem_append.mp made with first | later
          · exact here first
          · obtain ⟨method, linked, member, found⟩ := ih later
            exact ⟨method, linked, List.mem_cons_of_mem r member, found⟩

end Machine

theorem Resolved.entry_of_checkRef {f : Function} {m : Module} {accessors : List Accessor}
    {i : Located} {method argc : Nat} (checked : checkRef f m i = .ok ())
    (resolved : ofInstruction m accessors i = .ok (.invokeController method argc)) :
    method < UInt32.size ∧ ∃ ref, m.methods[method]? = some ref ∧ ref.argCount.toNat = argc := by
  obtain ⟨offset, instruction⟩ := i
  cases instruction with
  | invokeController index count =>
      simp only [ofInstruction] at resolved
      split at resolved
      · cases resolved
        simp only [checkRef, checkCount] at checked
        split at checked
        · rename_i ref entry
          split at checked
          · rename_i same
            exact ⟨index.toNat_lt, ref, entry, congrArg UInt8.toNat same⟩
          · cases checked
        · cases checked
      · cases resolved
  | loadCtx | noContent | ret => cases resolved
  | constStr | convert | box | invokeAccessor =>
      obtain ⟨_, -, other⟩ := entry_ok.mp resolved
      cases other

namespace LoadedClass

variable {m : Module} {h : HandlerRegistry} {c : LoadedClass} {route : String} {ctx : Context}
  {call : Call}

theorem exists_of_mem_calls (made : call ∈ (c.dispatch route ctx).1) :
    ∃ f ∈ c.functions, call ∈ (f.execute ctx c.methods).1 := by
  unfold dispatch at made
  split at made
  · cases made
  · rename_i f found
    obtain ⟨index, -, entry⟩ := Option.bind_eq_some_iff.mp found
    exact ⟨f, List.mem_of_getElem? entry, made⟩

theorem entry_of_call (loaded : load m h = .ok c) (made : call ∈ (c.dispatch route ctx).1) :
    ∃ i < UInt32.size, ∃ ref, m.methods[i]? = some ref ∧ ref.symbol = call.symbol ∧
      call.args.length = ref.argCount.toNat ∧
        ∃ handler, h.get? call.symbol = some ⟨ref.descriptor, handler⟩ := by
  obtain ⟨f, member, ran⟩ := exists_of_mem_calls made
  obtain ⟨accessors, g, -, table, verified, load⟩ := functions_of_load loaded member
  obtain ⟨body, decoded, checked, -⟩ := Function.verify_ok.mp verified
  obtain ⟨body', decoded', -, resolved⟩ := LoadedFunction.load_ok.mp load
  cases decoded.symm.trans decoded'
  obtain ⟨method, linked, used, found, symbol⟩ := Machine.runFrom_calls ran
  obtain ⟨i, instruction, same⟩ := exists_of_mem_forall₂_right resolved used
  obtain ⟨address, ref, entry, count⟩ := Resolved.entry_of_checkRef (checked i instruction) same
  obtain ⟨linked', found', bind⟩ := getElem?_of_forall₂ (Linked.ofTable_ok.mp table) entry
  cases found.symm.trans found'
  obtain ⟨registered, named⟩ := Linked.ofRef_ok.mp bind
  rw [← named, symbol] at registered
  exact ⟨method, address, ref, entry, named.symm.trans symbol, count.symm, _, registered⟩

end LoadedClass

/-! ## Classes that make a given call -/

theorem Op.Raises.contexts {depth count : Nat} (bounded : depth + count ≤ maxDepth) :
    Raises depth (List.replicate count .loadContext) (depth + count) := by
  induction count generalizing depth with
  | zero => exact .nil depth
  | succ count ih =>
      rw [← Nat.add_assoc, Nat.add_right_comm] at bounded ⊢
      have next : depth + 1 ≤ maxDepth := Nat.le_trans (Nat.le_add_right _ _) bounded
      exact .cons (by simp) (Nat.zero_le _) rfl next (ih bounded)

/-- Calls a method on as many contexts as its entry counts. -/
def AdapterUnit.calling (ref : MethodRef) : AdapterUnit :=
  let contexts : List Op := List.replicate ref.argCount.toNat .loadContext
  ⟨"r", ref, [], contexts ++ [.controller ref] ++ [.ret], [], .direct⟩

theorem AdapterUnit.disciplined_calling (ref : MethodRef) : (calling ref).Disciplined := by
  have few : 0 + ref.argCount.toNat ≤ maxDepth := by
    have bound := ref.argCount.toNat_lt
    rw [maxDepth]
    omega
  have enough : ref.argCount.toNat ≤ 0 + ref.argCount.toNat := Nat.le_add_left _ _
  have total : 1 + ref.argCount.toNat = 0 + ref.argCount.toNat + 1 := by omega
  refine ⟨_, rfl, (Op.Raises.contexts few).append ?_⟩
  exact .cons (by simp) enough total (by decide) (.nil 1)

/-- The function of such a unit, if the entry is at this position. -/
def Function.calling (index : UInt32) (ref : MethodRef) : Function :=
  let contexts : List Instruction := List.replicate ref.argCount.toNat .loadCtx
  ⟨"r", 1, 1, Code.encode (contexts ++ [.invokeController index ref.argCount] ++ [.ret])⟩

theorem AdapterUnit.lowered_calling {t : Tables} {index : UInt32} {ref : MethodRef}
    (entry : t.methods[index.toNat]? = some ref) :
    (calling ref).Lowered t (.calling index ref) := by
  have contexts (count : Nat) : List.Forall₂ (Op.Lowered t) (List.replicate count .loadContext)
      (List.replicate count .loadCtx) := by
    induction count with
    | zero => exact .nil
    | succ count ih => exact .cons .loadContext ih
  have call : List.Forall₂ (Op.Lowered t) [.controller ref]
      [.invokeController index ref.argCount] := .cons (.controller entry) .nil
  exact ⟨_, rfl, List.rel_append (List.rel_append (contexts _) call) (.cons .ret .nil)⟩

/-- A module with this method table, whose one route calls the entry at a position. -/
def Module.calling (table : List MethodRef) (index : UInt32) (ref : MethodRef) : Module :=
  { Module.named "C" with
    methods := table
    functions := [.calling index ref]
    classes := [⟨"C", Module.dispatchInterface, "", [⟨"r", 0⟩]⟩] }

namespace Machine

variable {ctx : Context} {methods : List Linked} {refs : List MethodRef} {code : List Resolved}

theorem runFrom_contexts {count : Nat}
    (loads : List.Forall₂ (Op.LoadsAs refs) (List.replicate count .loadContext) code)
    (stack : Stack) (rest : List Resolved) :
    runFrom ctx methods stack (code ++ rest) =
      runFrom ctx methods (List.replicate count .context ++ stack) rest := by
  induction count generalizing code stack with
  | zero =>
      cases loads
      rfl
  | succ count ih =>
      cases loads with
      | cons first others =>
          cases first
          rw [List.cons_append, runFrom_next rfl, ih others, List.replicate_succ',
            List.append_assoc, List.singleton_append]

theorem call_of_calling {h : HandlerRegistry} {ref : MethodRef}
    (linked : Linked.ofTable h refs = .ok methods)
    (loads : List.Forall₂ (Op.LoadsAs refs) (AdapterUnit.calling ref).ops code) :
    ⟨ref.symbol, List.replicate ref.argCount.toNat .context⟩ ∈ (runFrom ctx methods [] code).1 := by
  obtain ⟨front, last, rfl, before, -⟩ := exists_append_of_forall₂ loads
  obtain ⟨contexts, call, rfl, first, calls⟩ := exists_append_of_forall₂ before
  cases calls with
  | cons call nothing =>
      cases nothing
      cases call with
      | controller entry =>
          obtain ⟨l, found, bind⟩ := getElem?_of_forall₂ (Linked.ofTable_ok.mp linked) entry
          obtain ⟨-, symbol⟩ := Linked.ofRef_ok.mp bind
          let args : List Value := List.replicate ref.argCount.toNat .context
          have run :
              runFrom ctx methods args.reverse (.invokeController _ args.length :: last) = _ :=
            runFrom_call found last
          rw [List.reverse_replicate, List.length_replicate, symbol] at run
          rw [List.append_assoc, runFrom_contexts first, List.append_nil, List.singleton_append,
            run]
          cases l.handler ctx args with
          | ok v => exact List.mem_cons_self
          | error message => exact List.mem_singleton_self _

end Machine

namespace LoadedClass

variable {table : List MethodRef} {methods : List Linked} {h : HandlerRegistry} {index : UInt32}
  {ref : MethodRef}

theorem exists_load_calling (linked : Linked.ofTable h table = .ok methods)
    (entry : table[index.toNat]? = some ref) :
    ∃ c, load (.calling table index ref) h = .ok c ∧ ∀ ctx, ∃ call ∈ (c.dispatch "r" ctx).1,
      call.symbol = ref.symbol ∧ call.args.length = ref.argCount.toNat := by
  have lowered := AdapterUnit.lowered_calling (t := (Module.calling table index ref).tables) entry
  have verified := lowered.verify (AdapterUnit.disciplined_calling ref)
  have bound : Accessor.ofTable (Module.calling table index ref).accessors = .ok [] := rfl
  obtain ⟨f, resolved, -, loads⟩ := lowered.load bound
  have loaded : load (.calling table index ref) h = .ok _ :=
    load_of_route rfl rfl rfl verified bound linked resolved
  exact ⟨_, loaded, fun ctx =>
    ⟨_, Machine.call_of_calling linked loads, rfl, List.length_replicate⟩⟩

/-- Every call passes as many arguments as an entry with its symbol and descriptor counts. All
calls are as declared exactly if all entries are that can be referred to. -/
theorem arities_iff (h : HandlerRegistry) :
    (∀ m c, load m h = .ok c → ∀ route ctx, ∀ call ∈ (c.dispatch route ctx).1,
      ∃ ref ∈ m.methods, ref.symbol = call.symbol ∧ call.args.length = ref.argCount.toNat ∧
        ∃ handler, h.get? call.symbol = some ⟨ref.descriptor, handler⟩) ∧
    ∀ table,
      (∀ m c, m.methods = table → load m h = .ok c →
        ∀ route ctx, ∀ call ∈ (c.dispatch route ctx).1, call.Counted h) ↔
      ∀ methods, Linked.ofTable h table = .ok methods → ∀ i < UInt32.size, ∀ ref,
        table[i]? = some ref → DeclaresArity ref.descriptor ref.argCount.toNat := by
  refine ⟨?_, fun table => ⟨?_, ?_⟩⟩
  · intro m c loaded route ctx call made
    obtain ⟨i, -, ref, entry, found⟩ := entry_of_call loaded made
    exact ⟨ref, List.mem_of_getElem? entry, found⟩
  · intro counted methods linked i address ref entry
    rw [← UInt32.toNat_ofNat_of_lt' address] at entry
    obtain ⟨c, loaded, calls⟩ := exists_load_calling linked entry
    obtain ⟨call, made, symbol, count⟩ := calls Request.empty.toContext
    obtain ⟨r, registered, declares⟩ := counted _ c rfl loaded "r" _ call made
    obtain ⟨_, _, bind⟩ := getElem?_of_forall₂ (Linked.ofTable_ok.mp linked) entry
    obtain ⟨known, -⟩ := Linked.ofRef_ok.mp bind
    rw [symbol] at registered
    cases registered.symm.trans known
    exact count ▸ declares
  · intro counts m c same loaded route ctx call made
    obtain ⟨-, _, _, _, -, -, -, linked, -⟩ := loadWith_ok.mp loaded
    obtain ⟨i, address, ref, entry, -, count, handler, registered⟩ := entry_of_call loaded made
    refine ⟨_, registered, ?_⟩
    rw [count]
    exact counts _ (same ▸ linked) i address ref (same ▸ entry)

theorem exists_load_miscounting :
    let ref : MethodRef := ⟨"C.m", methodDescriptor [] .str, 1⟩
    let h : HandlerRegistry := ⟨[("C.m", ⟨ref.descriptor, fun _ args => .ok (.list args)⟩)]⟩
    ∃ c, load (.calling [ref] 0 ref) h = .ok c ∧
      ∃ call ∈ (c.dispatch "r" Request.empty.toContext).1, ¬ call.Counted h := by
  intro ref h
  have linked : Linked.ofTable h [ref] = .ok [⟨"C.m", fun _ args => .ok (.list args)⟩] :=
    Linked.ofTable_ok.mpr (.cons (Linked.ofRef_ok.mpr ⟨rfl, rfl⟩) .nil)
  have entry : [ref][(0 : UInt32).toNat]? = some ref := rfl
  obtain ⟨c, loaded, calls⟩ := exists_load_calling linked entry
  obtain ⟨call, made, symbol, count⟩ := calls Request.empty.toContext
  refine ⟨c, loaded, call, made, ?_⟩
  rintro ⟨r, registered, declares⟩
  rw [symbol] at registered
  cases registered
  rw [count, declaresArity_methodDescriptor (by simp) (Ty.wellFormed_of_keyword .str (by decide))]
    at declares
  cases declares

end LoadedClass

end RouteAdapter
