import RouteAdapter.Proofs.Emission.Method

/-!
# The shape of a unit

The unit of a method has its arguments one after the other, each in a span of its own, then the
call, what is made of the result, and the return. A method has a unit exactly if its parameters are
resolved, each of them has an argument, and there are fewer than 256. The schema plays no other
part.

* `OpSpan.tiling`: the spans of arguments that follow one another;
* `AdapterUnit.assemble`: the unit of a method, from its parameters and their arguments;
* `Emitter.emit_eq_ok`: which units are emitted;
* `Emitter.emit_shaped`: the shape of an emitted unit, read off its spans.
-/

namespace RouteAdapter

/-! ## Spans -/

namespace OpSpan

/-- The spans of arguments that follow one another, the first of them from `start` on. -/
def tiling (start : Nat) : List (List Op) → List OpSpan
  | [] => []
  | argument :: rest => ⟨start, start + argument.length⟩ :: tiling (start + argument.length) rest

variable {start : Nat} {arguments : List (List Op)}

theorem length_tiling (start : Nat) (arguments : List (List Op)) :
    (tiling start arguments).length = arguments.length := by
  induction arguments generalizing start with
  | nil => rfl
  | cons argument arguments ih => rw [tiling, List.length_cons, List.length_cons, ih]

theorem start_of_head_tiling : ∀ span ∈ (tiling start arguments).head?, span.start = start := by
  cases arguments with
  | nil => exact nofun
  | cons argument arguments =>
      rintro span ⟨⟩
      rfl

theorem isChain_tiling (start : Nat) (arguments : List (List Op)) :
    (tiling start arguments).IsChain fun a b => b.start = a.stop := by
  induction arguments generalizing start with
  | nil => exact .nil
  | cons argument arguments ih =>
      cases arguments with
      | nil => exact .singleton _
      | cons next arguments => exact .cons_cons rfl (ih (start + argument.length))

theorem lt_of_mem_tiling (nonempty : ∀ argument ∈ arguments, argument ≠ []) {span : OpSpan}
    (member : span ∈ tiling start arguments) : span.start < span.stop := by
  induction arguments generalizing start with
  | nil => cases member
  | cons argument arguments ih =>
      obtain ⟨here, later⟩ := List.forall_mem_cons.mp nonempty
      rcases List.mem_cons.mp member with rfl | member
      · exact Nat.lt_add_of_pos_right (List.length_pos_iff.mpr here)
      · exact ih later member

theorem stop_tiling (start : Nat) (arguments : List (List Op)) :
    ((tiling start arguments).getLast?).elim start stop = start + arguments.flatten.length := by
  induction arguments generalizing start with
  | nil => rfl
  | cons argument arguments ih =>
      rw [tiling, List.getLast?_cons, List.flatten_cons, List.length_append, ← Nat.add_assoc, ← ih]
      cases (tiling (start + argument.length) arguments).getLast? <;> rfl

/-- A span of the tiling holds its argument, whatever stands before and after the arguments. -/
theorem slice_tiling (front : List Op) {back : List Op} {i : Nat} {argument : List Op}
    (entry : arguments[i]? = some argument) :
    ∃ span, (tiling front.length arguments)[i]? = some span ∧ span.start ≤ span.stop ∧
      span.stop ≤ (front ++ (arguments.flatten ++ back)).length ∧
        ((front ++ (arguments.flatten ++ back)).take span.stop).drop span.start = argument := by
  induction arguments generalizing front i with
  | nil => cases entry
  | cons first arguments ih =>
      rw [List.flatten_cons, List.append_assoc]
      cases i with
      | zero =>
          cases entry
          refine ⟨_, rfl, Nat.le_add_right _ _, ?_, ?_⟩
          · simp only [List.length_append]
            omega
          · rw [← List.append_assoc, ← List.length_append, List.take_left, List.drop_left]
      | succ i =>
          -- The first argument belongs to what stands before the others.
          have rest := ih (front ++ first) entry
          rw [List.length_append, List.append_assoc] at rest
          exact rest

end OpSpan

/-! ## Which units are emitted -/

namespace Chain

variable {s : Schema} {p : Parameter}

theorem convertTop_eq {source : Ty} (converts : source.convertsTo p.ty = true) :
    convertTop p (some source) = (conversion source p.ty, .ok p.ty) := by
  unfold convertTop conversion
  by_cases same : source = p.ty
  · simp only [same, ↓reduceIte]
  · simp only [same, converts, ↓reduceIte]

theorem fetch_eq {kind : SourceKind} {a : AccessorSpec} (before : List Op)
    (found : s.lookup (p.source, kind) = some a) (few : a.params.length < 256) :
    fetch s p kind before = (before ++ [.accessor a.ref], .ok a.returns) := by
  simp only [fetch, lookup, found, accessorRef, few, ↓reduceIte, AccessorSpec.ref]

/-- A chain is written to its end exactly if it writes the argument of its parameter. -/
theorem emit_eq_ok {ops : List Op} :
    emit s p (ofParameter p) = (ops, .ok ()) ↔ p.Emits s ops := by
  refine ⟨emit_ok, fun emits => ?_⟩
  cases emits with
  | context source =>
      simp only [emit, ofParameter, source, ↓reduceIte, emitFrom, write, List.append_nil]
  | named source kind found few converts =>
      have named : p.isNamed = true := decide_eq_true kind
      simp only [emit, ofParameter, source, named, ↓reduceIte, emitFrom, write,
        fetch_eq _ found few, convertTop_eq converts, List.append_nil, List.cons_append,
        List.nil_append]
  | object source kind found few converts =>
      have whole : p.isNamed = false := by
        rw [Parameter.isNamed, kind]
        rfl
      simp only [emit, ofParameter, source, whole, Bool.false_eq_true, ↓reduceIte, emitFrom, write,
        fetch_eq _ found few, convertTop_eq converts, List.append_nil, List.cons_append,
        List.nil_append]

end Chain

/-- The unit of a method with these parameters and arguments. -/
def AdapterUnit.assemble (controller : String) (m : DeclaredMethod) (params : List Parameter)
    (arguments : List (List Op)) : AdapterUnit :=
  let target : MethodRef :=
    ⟨controller ++ "." ++ m.name, m.descriptor, UInt8.ofNat params.length⟩
  { route := m.name
    target := target
    params := params
    ops := arguments.flatten ++
      .controller target :: (Emitter.returnOps (.ofTy m.returns) ++ [.ret])
    argSpans := OpSpan.tiling 0 arguments
    policy := .ofTy m.returns }

namespace Emitter

variable {s : Schema}

theorem addParameter_eq {p : Progress} {index : Nat} {d : DeclaredParam} {q : Parameter}
    {argument : List Op} (resolved : Parameter.resolve index d = .ok q)
    (emits : q.Emits s argument) :
    addParameter s p index d =
      ⟨p.params ++ [q], p.ops ++ argument,
        p.argSpans ++ [⟨p.ops.length, p.ops.length + argument.length⟩], p.errors⟩ := by
  simp only [addParameter, resolved, Chain.emit_eq_ok.mpr emits]

theorem addParameters_eq {p : Progress} {index : Nat} {ds : List DeclaredParam}
    {params : List Parameter} {arguments : List (List Op)}
    (resolved : List.Forall₂ (fun r q => r = .ok q)
      (ds.mapIdx fun i d => Parameter.resolve (index + i) d) params)
    (emits : List.Forall₂ (Parameter.Emits s) params arguments) :
    addParameters s p index ds =
      ⟨p.params ++ params, p.ops ++ arguments.flatten,
        p.argSpans ++ OpSpan.tiling p.ops.length arguments, p.errors⟩ := by
  -- The next parameter finds a longer body, and is one further in the declaration.
  induction ds generalizing p index params arguments with
  | nil =>
      cases resolved
      cases emits
      simp only [addParameters, List.flatten_nil, OpSpan.tiling, List.append_nil]
  | cons d ds ih =>
      rw [List.mapIdx_cons] at resolved
      cases resolved with
      | @cons _ q _ params first rest =>
          cases emits with
          | @cons _ argument _ arguments here later =>
              have resolvedHere : Parameter.resolve index d = .ok q := first
              have shifted : List.Forall₂ (fun r q => r = .ok q)
                  (ds.mapIdx fun i d => Parameter.resolve (index + 1 + i) d) params := by
                simpa only [Nat.add_assoc, Nat.add_comm 1] using rest
              rw [addParameters, addParameter_eq resolvedHere here, ih shifted later]
              simp only [OpSpan.tiling, List.append_assoc, List.cons_append, List.nil_append,
                List.flatten_cons, List.length_append]

/-- With an argument for each of its parameters a method has a unit, unless a call cannot take as
many. -/
theorem emit_of_emits (controller : String) {m : DeclaredMethod} {params : List Parameter}
    {arguments : List (List Op)} (resolved : Parameter.resolveAll m = .ok params)
    (emits : List.Forall₂ (Parameter.Emits s) params arguments) :
    emit s controller m =
      if params.length < 256 then .ok (.assemble controller m params arguments)
      else .error [.emission (.tooManyParameters controller m.name params.length)] := by
  have each : List.Forall₂ (fun r q => r = .ok q)
      (m.params.mapIdx fun i d => Parameter.resolve (0 + i) d) params := by
    simpa only [Nat.zero_add] using Parameter.resolveAll_ok.mp resolved
  have all := addParameters_eq (p := ⟨[], [], [], []⟩) each emits
  simp only [List.nil_append, List.length_nil] at all
  simp only [emit, emitParameters, start, expect, ↓reduceIte, all, List.isEmpty_nil, emitInvocation]
  by_cases few : params.length < 256
  · simp only [few, ↓reduceIte, andThen, emitReturn, finish, expect, bind, Except.bind, pure,
      Except.pure, Except.mapError, AdapterUnit.assemble, List.append_assoc, List.cons_append,
      List.nil_append]
  · simp only [few, ↓reduceIte, andThen]

theorem emit_eq_ok {controller : String} {m : DeclaredMethod} {u : AdapterUnit} :
    emit s controller m = .ok u ↔
      ∃ params arguments, Parameter.resolveAll m = .ok params ∧ params.length < 256 ∧
        List.Forall₂ (Parameter.Emits s) params arguments ∧
          u = .assemble controller m params arguments := by
  constructor
  · intro emitted
    obtain ⟨arguments, adapts⟩ := emit_ok emitted
    rw [emit_of_emits controller adapts.params adapts.emits, if_pos adapts.few] at emitted
    exact ⟨u.params, arguments, adapts.params, adapts.few, adapts.emits,
      (Except.ok.inj emitted).symm⟩
  · rintro ⟨params, arguments, resolved, few, emits, rfl⟩
    rw [emit_of_emits controller resolved emits, if_pos few]

end Emitter

/-! ## The shape -/

theorem Parameter.declared_of_resolveAll {m : DeclaredMethod} {params : List Parameter}
    (resolved : resolveAll m = .ok params) :
    params.map (fun p => (p.index, p.name, p.ty)) =
      m.params.mapIdx fun i d => (i, d.name, d.ty) := by
  have each := List.mapIdx_eq_iff.mp (resolveAll_eq_ok.mp resolved)
  refine (List.mapIdx_eq_iff.mpr fun i => ?_).symm
  have here := each i
  rw [List.getElem?_map] at here ⊢
  cases declared : m.params[i]? with
  | none =>
      rw [declared, Option.map_none, Option.map_eq_none_iff] at here
      rw [here]
      rfl
  | some d =>
      rw [declared, Option.map_some, Option.map_eq_some_iff] at here
      obtain ⟨p, entry, same⟩ := here
      obtain ⟨source, explicit, -, rfl⟩ := resolve_eq_ok.mp same.symm
      rw [entry]
      rfl

def Op.isCall : Op → Bool
  | controller _ => true
  | _ => false

/-- What follows the call: the result is replaced, boxed or left as it is, and returned. -/
def DeclaredMethod.closing (m : DeclaredMethod) : List Op :=
  if m.returns = .void then [.pushNoContent, .ret]
  else if m.returns.isPrimitive then [.box m.returns, .ret]
  else [.ret]

namespace DeclaredMethod

theorem returnOps_eq_closing (m : DeclaredMethod) :
    Emitter.returnOps (.ofTy m.returns) ++ [.ret] = m.closing := by
  unfold closing ReturnPolicy.ofTy
  cases m.returns <;> rfl

theorem closing_cases (m : DeclaredMethod) :
    m.closing = [.pushNoContent, .ret] ∨ m.closing = [.box m.returns, .ret] ∨
      m.closing = [.ret] := by
  unfold closing
  split
  · exact .inl rfl
  · split
    · exact .inr (.inl rfl)
    · exact .inr (.inr rfl)

theorem no_calls_closing (m : DeclaredMethod) : m.closing.filter Op.isCall = [] := by
  rcases m.closing_cases with same | same | same <;> rw [same] <;> rfl

theorem countP_accessor_closing (m : DeclaredMethod) : m.closing.countP Op.isAccessor = 0 := by
  rcases m.closing_cases with same | same | same <;> rw [same] <;> rfl

end DeclaredMethod

/-- The operations after the last argument start where its span stops. -/
def AdapterUnit.callStart (u : AdapterUnit) : Nat :=
  (u.argSpans.getLast?).elim 0 OpSpan.stop

/-- The arguments of the declared parameters stand one after the other from the start, each in its
span, and are followed by the only call, and by what the type of the result asks for. -/
structure AdapterUnit.Shaped (s : Schema) (controller : String) (m : DeclaredMethod)
    (u : AdapterUnit) : Prop where
  route : u.route = m.name
  resolved : Parameter.resolveAll m = .ok u.params
  declared : u.params.map (fun p => (p.index, p.name, p.ty)) =
    m.params.mapIdx fun i d => (i, d.name, d.ty)
  spans : u.argSpans.length = u.params.length
  nonempty : ∀ span ∈ u.argSpans, span.start < span.stop
  first : ∀ span ∈ u.argSpans.head?, span.start = 0
  adjacent : u.argSpans.IsChain fun a b => b.start = a.stop
  arguments : ∀ (i : Nat) (p : Parameter), u.params[i]? = some p →
    ∃ argument, u.argOps? i = some argument ∧ p.Emits s argument
  closing : u.ops.drop u.callStart = .controller u.target :: m.closing
  calls : u.ops.filter Op.isCall = [.controller u.target]
  symbol : u.target.symbol = controller ++ "." ++ m.name
  descriptor : u.target.descriptor = m.descriptor
  argCount : u.target.argCount.toNat = m.params.length
  accessors : u.accessorCalls = u.params.countP fun p => p.source ≠ .context
  policy : u.policy = .ofTy m.returns

namespace Parameter.Emits

variable {s : Schema} {p : Parameter} {ops : List Op}

theorem ne_nil (emits : p.Emits s ops) : ops ≠ [] := by
  cases emits <;> exact List.cons_ne_nil _ _

theorem no_calls (emits : p.Emits s ops) : ops.filter Op.isCall = [] := by
  rw [List.filter_eq_nil_iff]
  intro op member call
  rcases emits.mem member with rfl | ⟨_, rfl⟩ | ⟨_, _, _, rfl⟩ | ⟨_, rfl⟩ <;> cases call

theorem countP_accessor (emits : p.Emits s ops) :
    ops.countP Op.isAccessor = if p.source ≠ .context then 1 else 0 := by
  have conversion (source : Ty) : (Chain.conversion source p.ty).countP Op.isAccessor = 0 := by
    unfold Chain.conversion
    split <;> rfl
  cases emits with
  | context source =>
      rw [if_neg (not_not.mpr source)]
      rfl
  | @named a source =>
      rw [if_pos source, List.countP_append, conversion]
      rfl
  | @object a source =>
      rw [if_pos source, List.countP_append, conversion]
      rfl

theorem no_calls_all {params : List Parameter} {arguments : List (List Op)}
    (emits : List.Forall₂ (Emits s) params arguments) :
    arguments.flatten.filter Op.isCall = [] := by
  rw [List.filter_flatten, List.flatten_eq_nil_iff]
  intro calls member
  obtain ⟨argument, known, rfl⟩ := List.mem_map.mp member
  obtain ⟨p, -, emit⟩ := exists_of_mem_forall₂_right emits known
  exact emit.no_calls

theorem countP_accessor_all {params : List Parameter} {arguments : List (List Op)}
    (emits : List.Forall₂ (Emits s) params arguments) :
    arguments.flatten.countP Op.isAccessor = params.countP fun p => p.source ≠ .context := by
  induction emits with
  | nil => rfl
  | cons first _ ih =>
      rw [List.flatten_cons, List.countP_append, first.countP_accessor, ih, List.countP_cons,
        Nat.add_comm]
      simp only [decide_eq_true_eq]

end Parameter.Emits

namespace AdapterUnit

variable {s : Schema} {controller : String} {m : DeclaredMethod} {params : List Parameter}
  {arguments : List (List Op)}

theorem argOps?_assemble {i : Nat} {argument : List Op} (entry : arguments[i]? = some argument) :
    (assemble controller m params arguments).argOps? i = some argument := by
  obtain ⟨span, known, ordered, inside, slice⟩ := OpSpan.slice_tiling [] entry
  have found : (assemble controller m params arguments).argSpans[i]? = some span := known
  rw [argOps?, found]
  dsimp only
  rw [if_pos ⟨ordered, inside⟩]
  exact congrArg some slice

theorem ops_assemble :
    (assemble controller m params arguments).ops =
      arguments.flatten ++
        .controller (assemble controller m params arguments).target :: m.closing := by
  rw [← m.returnOps_eq_closing]
  rfl

theorem callStart_assemble :
    (assemble controller m params arguments).callStart = arguments.flatten.length := by
  rw [callStart, assemble, OpSpan.stop_tiling, Nat.zero_add]

theorem shaped_assemble (resolved : Parameter.resolveAll m = .ok params)
    (few : params.length < 256) (emits : List.Forall₂ (Parameter.Emits s) params arguments) :
    (assemble controller m params arguments).Shaped s controller m where
  route := rfl
  resolved := resolved
  declared := Parameter.declared_of_resolveAll resolved
  spans := (OpSpan.length_tiling 0 arguments).trans emits.length_eq.symm
  nonempty span member := by
    refine OpSpan.lt_of_mem_tiling (fun argument known => ?_) member
    obtain ⟨p, -, emit⟩ := exists_of_mem_forall₂_right emits known
    exact emit.ne_nil
  first := OpSpan.start_of_head_tiling
  adjacent := OpSpan.isChain_tiling 0 arguments
  arguments i p entry := by
    obtain ⟨argument, known, emit⟩ := getElem?_of_forall₂ emits entry
    exact ⟨argument, argOps?_assemble known, emit⟩
  closing := by
    rw [callStart_assemble, ops_assemble, List.drop_left]
  calls := by
    rw [ops_assemble, List.filter_append, Parameter.Emits.no_calls_all emits, List.nil_append,
      List.filter_cons_of_pos rfl, m.no_calls_closing]
  symbol := rfl
  descriptor := rfl
  argCount := by
    rw [← Parameter.length_resolveAll resolved]
    exact Nat.mod_eq_of_lt few
  accessors := by
    rw [accessorCalls, ops_assemble, List.countP_append, Parameter.Emits.countP_accessor_all emits,
      List.countP_cons_of_neg Bool.false_ne_true, m.countP_accessor_closing]
    rfl
  policy := rfl

end AdapterUnit

namespace Emitter

/-- Whatever the schema, an emitted unit has the shape of its method. -/
theorem emit_shaped {s : Schema} {controller : String} {m : DeclaredMethod} {u : AdapterUnit}
    (emitted : emit s controller m = .ok u) : u.Shaped s controller m := by
  obtain ⟨params, arguments, resolved, few, emits, rfl⟩ := emit_eq_ok.mp emitted
  exact AdapterUnit.shaped_assemble resolved few emits

/-- Cookies are kept in the session. -/
def cookies : Schema :=
  Schema.standard.insert (.session, .named) ⟨"cookie", [.str], .str⟩

def browse : DeclaredMethod where
  name := "browse"
  params := [⟨"ctx", .context, []⟩, ⟨"agent", .option .str, [⟨"header", some "User-Agent"⟩]⟩,
    ⟨"token", .str, [⟨"doc", none⟩, ⟨"session", none⟩]⟩,
    ⟨"filter", .named "Filter", [⟨"query", none⟩]⟩]
  returns := .i64

theorem emit_shaped_browse :
    ∃ u, emit cookies "Pages" browse = .ok u ∧ u.Shaped cookies "Pages" browse ∧
      u.argSpans = [⟨0, 1⟩, ⟨1, 5⟩, ⟨5, 8⟩, ⟨8, 11⟩] ∧ u.callStart = 11 ∧ u.accessorCalls = 3 :=
  ⟨_, rfl, emit_shaped rfl, rfl, rfl, rfl⟩

end Emitter
end RouteAdapter
