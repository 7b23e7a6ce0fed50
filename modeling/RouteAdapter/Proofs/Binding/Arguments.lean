import RouteAdapter.Proofs.Binding.Binder
import RouteAdapter.Proofs.Emission.Discipline
import RouteAdapter.Proofs.Emission.Schema
import RouteAdapter.Proofs.Lowering.Loading

/-!
# Bodies bind their arguments

A loaded body does what the reference binder says. Each argument leaves one value on the stack or
ends the run with the fault of its conversion, so all of them leave the arguments in reverse, where
the call takes them from.

* `AccessorSpec.Serves`: what is relied on of an accessor of the schema;
* `Machine.runFrom_argument`: one argument;
* `Machine.runFrom_arguments`: all of them;
* `Machine.runFrom_unit`: the body of a unit.
-/

namespace RouteAdapter

/-! ## Accessors of the schema -/

/-- The accessor that the entry is bound to answers what the binder fetches. -/
structure AccessorSpec.Serves (a : AccessorSpec) (source : Source) (kind : SourceKind)
    (accessor : Accessor) : Prop where
  resolved : Accessor.resolve a.name a.descriptor = .ok accessor
  arity : accessor.arity = a.params.length
  regular : a.params.length = match kind with
    | .named => 1
    | .object => 0
  invoke : ∀ ctx (p : Parameter) name, p.source = source → p.kind = kind →
    (kind = .named → name = p.httpName) → accessor.invoke ctx name = p.fetch ctx
  conforms : ∀ ctx name, (accessor.invoke ctx name).conforms a.returns = true

namespace Schema

theorem single_serves {source : Source} {name : String} {from_ : SingleSource}
    (resolved : Accessor.resolve name (single source name).2.descriptor = .ok (.single from_))
    (fetch : ∀ ctx (p : Parameter), p.source = source → p.kind = .named →
      (Accessor.single from_).invoke ctx p.httpName = p.fetch ctx) :
    (single source name).2.Serves source .named (.single from_) where
  resolved := resolved
  arity := rfl
  regular := rfl
  invoke ctx p _ origin kind same := by rw [same rfl, fetch ctx p origin kind]
  conforms ctx name := by cases from_ <;> rfl

theorem whole_serves {source : Source} {name : String} {returns : Ty} {accessor : Accessor}
    (resolved : Accessor.resolve name (whole source name returns).2.descriptor = .ok accessor)
    (arity : accessor.arity = 0)
    (fetch : ∀ ctx (p : Parameter) name, p.source = source → p.kind = .object →
      accessor.invoke ctx name = p.fetch ctx)
    (conforms : ∀ ctx name, (accessor.invoke ctx name).conforms returns = true) :
    (whole source name returns).2.Serves source .object accessor where
  resolved := resolved
  arity := arity
  regular := rfl
  invoke ctx p name origin kind _ := fetch ctx p name origin kind
  conforms := conforms

theorem exists_serves {b : Binding} {a : AccessorSpec} (member : (b, a) ∈ standard.bindings) :
    ∃ accessor, a.Serves b.1 b.2 accessor := by
  have each : ∀ entry ∈ standard.bindings,
      ∃ accessor, entry.2.Serves entry.1.1 entry.1.2 accessor := by
    simp only [standard, List.forall_mem_cons, List.not_mem_nil, false_implies, implies_true,
      and_true]
    refine ⟨⟨.single .path, single_serves rfl ?_⟩, ⟨.object .path, whole_serves rfl rfl ?_ ?_⟩,
      ⟨.single .query, single_serves rfl ?_⟩, ⟨.object .query, whole_serves rfl rfl ?_ ?_⟩,
      ⟨.single .header, single_serves rfl ?_⟩, ⟨.object .header, whole_serves rfl rfl ?_ ?_⟩,
      ⟨.single .form, single_serves rfl ?_⟩, ⟨.object .form, whole_serves rfl rfl ?_ ?_⟩,
      ⟨.single .session, single_serves rfl ?_⟩, ⟨.object .session, whole_serves rfl rfl ?_ ?_⟩,
      ⟨.single .flash, single_serves rfl ?_⟩, ⟨.object .flash, whole_serves rfl rfl ?_ ?_⟩,
      ⟨.single .param, single_serves rfl ?_⟩, ⟨.body, whole_serves rfl rfl ?_ ?_⟩⟩
    all_goals intro ctx
    all_goals first
      | intro p origin kind
        rw [Parameter.fetch, origin, kind]
        rfl
      | intro p name origin kind
        rw [Parameter.fetch, origin, kind]
        rfl
      | intro name
        rfl
  exact each _ member

/-- Every accessor of the schema is one of the standard ones. -/
def Standard (s : Schema) : Prop :=
  ∀ entry ∈ s.bindings, entry ∈ standard.bindings

theorem Standard.serves {s : Schema} (of : s.Standard) {source : Source} {kind : SourceKind}
    {a : AccessorSpec} (found : s.lookup (source, kind) = some a) :
    ∃ accessor, a.Serves source kind accessor :=
  exists_serves (of _ (mem_of_lookup found))

theorem Standard.regular {s : Schema} (of : s.Standard) : s.Regular := by
  intro source kind a found
  obtain ⟨accessor, serves⟩ := of.serves found
  exact serves.regular

end Schema

theorem Config.standard_schema (c : Config) : c.schema.Standard := by
  have disabled (names : List String) (s : Schema) (of : s.Standard) :
      (names.foldl Schema.disable s).Standard := by
    induction names generalizing s with
    | nil => exact of
    | cons name names ih => exact ih _ fun entry member => of entry (List.mem_filter.mp member).1
  exact disabled c.disabled Schema.standard fun _ member => member

/-! ## Runs -/

namespace Machine

variable {ctx : Context} {methods : List Linked} {refs : List MethodRef} {s : Schema}
  {code : List Resolved}

theorem accessorArgs_named {a : Accessor} (one : a.arity = 1) (name : String) (rest : Stack) :
    accessorArgs a (.str name :: .context :: rest) = .ok (name, rest) := by
  unfold accessorArgs
  rw [one]
  rfl

theorem accessorArgs_object {a : Accessor} (none : a.arity = 0) (rest : Stack) :
    accessorArgs a (.context :: rest) = .ok ("", rest) := by
  unfold accessorArgs
  rw [none]
  rfl

theorem runFrom_next {stack after : Stack} {r : Resolved}
    (next : step ctx methods stack r = ([], .next after)) (code : List Resolved) :
    runFrom ctx methods stack (r :: code) = runFrom ctx methods after code := by
  rw [runFrom, next]
  rfl

theorem convert_of_conforms {v : Value} {ty : Ty} (conforms : v.conforms ty = true) :
    v.convert ty = .ok v :=
  if_pos conforms

/-- The rest of a body runs with the value on the stack, unless its conversion fails. -/
def proceed (ctx : Context) (methods : List Linked) (stack : Stack) (rest : List Resolved) :
    Except ConvertError Value → List Call × Except VmError Value
  | .ok v => runFrom ctx methods (v :: stack) rest
  | .error e => ([], .error (.convert e))

theorem runFrom_conversion {source target : Ty} {v : Value} (conforms : v.conforms source = true)
    (loads : List.Forall₂ (Op.LoadsAs refs) (Chain.conversion source target) code) (stack : Stack)
    (rest : List Resolved) :
    runFrom ctx methods (v :: stack) (code ++ rest) =
      proceed ctx methods stack rest (v.convert target) := by
  unfold Chain.conversion at loads
  split at loads
  · rename_i same
    cases loads
    rw [← same, convert_of_conforms conforms]
    rfl
  · cases loads with
    | cons first nothing =>
        cases nothing
        cases first
        cases converted : v.convert target with
        | ok w =>
            refine runFrom_next ?_ rest
            simp only [step, converted]
        | error e =>
            rw [List.cons_append, runFrom, step, converted]
            rfl

theorem runFrom_argument {p : Parameter} {ops : List Op} (of : s.Standard) (emits : p.Emits s ops)
    (loads : List.Forall₂ (Op.LoadsAs refs) ops code) (stack : Stack) (rest : List Resolved) :
    runFrom ctx methods stack (code ++ rest) =
      proceed ctx methods stack rest (Binder.argument ctx p) := by
  unfold Binder.argument
  cases emits with
  | context source =>
      cases loads with
      | cons first nothing =>
          cases nothing
          cases first
          rw [if_pos source]
          exact runFrom_next rfl rest
  | @named a source kind found few =>
      obtain ⟨accessor, serves⟩ := of.serves found
      have one : accessor.arity = 1 := serves.arity.trans serves.regular
      obtain ⟨front, conversion, rfl, fetch, converts⟩ := exists_append_of_forall₂ loads
      cases fetch with
      | cons first more =>
      cases more with
      | cons second more =>
      cases more with
      | cons third nothing =>
          cases nothing
          cases first
          cases second
          cases third with
          | accessor resolved =>
              cases resolved.symm.trans serves.resolved
              have args := accessorArgs_named one p.httpName stack
              rw [if_neg source, ← serves.invoke ctx p p.httpName rfl kind fun _ => rfl,
                List.append_assoc]
              refine (runFrom_next rfl _).trans ((runFrom_next rfl _).trans ?_)
              refine (runFrom_next (by rw [step, args]) _).trans ?_
              exact runFrom_conversion (serves.conforms ctx p.httpName) converts stack rest
  | @object a source kind found few =>
      obtain ⟨accessor, serves⟩ := of.serves found
      have none : accessor.arity = 0 := serves.arity.trans serves.regular
      obtain ⟨front, conversion, rfl, fetch, converts⟩ := exists_append_of_forall₂ loads
      cases fetch with
      | cons first more =>
      cases more with
      | cons second nothing =>
          cases nothing
          cases first
          cases second with
          | accessor resolved =>
              cases resolved.symm.trans serves.resolved
              have args := accessorArgs_object none stack
              rw [if_neg source, ← serves.invoke ctx p "" rfl kind (by simp), List.append_assoc]
              refine (runFrom_next rfl _).trans ((runFrom_next (by rw [step, args]) _).trans ?_)
              exact runFrom_conversion (serves.conforms ctx "") converts stack rest

/-- The arguments are left on the stack, the last on top. -/
theorem runFrom_arguments {params : List Parameter} {arguments : List (List Op)} (of : s.Standard)
    (emits : List.Forall₂ (Parameter.Emits s) params arguments)
    (loads : List.Forall₂ (Op.LoadsAs refs) arguments.flatten code) (stack : Stack)
    (rest : List Resolved) :
    runFrom ctx methods stack (code ++ rest) =
      match Binder.arguments ctx params with
      | .ok args => runFrom ctx methods (args.reverse ++ stack) rest
      | .error e => ([], .error (.convert e)) := by
  induction emits generalizing code stack with
  | nil =>
      cases loads
      rfl
  | @cons p argument params arguments first _ ih =>
      rw [List.flatten_cons] at loads
      obtain ⟨front, back, rfl, here, later⟩ := exists_append_of_forall₂ loads
      rw [List.append_assoc, runFrom_argument of first here, Binder.arguments, List.mapM_cons]
      cases bound : Binder.argument ctx p with
      | error e => rfl
      | ok v =>
          -- What was bound before lies below the arguments still to come.
          simp only [proceed]
          rw [ih later, Binder.arguments]
          cases List.mapM (Binder.argument ctx) params with
          | error e => rfl
          | ok args =>
              simp only [bind, Except.bind, pure, Except.pure, List.reverse_cons, List.append_assoc,
                List.singleton_append]

theorem runFrom_return {returns : Ty}
    (loads : List.Forall₂ (Op.LoadsAs refs) (Emitter.returnOps (.ofTy returns) ++ [.ret]) code)
    (v : Value) : runFrom ctx methods [v] code = ([], Binder.result returns v) := by
  unfold ReturnPolicy.ofTy at loads
  unfold Binder.result
  split at loads
  · rename_i void
    cases loads with
    | cons first more =>
    cases more with
    | cons second nothing =>
        cases nothing
        cases first
        cases second
        rw [if_pos void]
        rfl
  · rename_i value
    rw [if_neg value]
    split at loads
    · rename_i primitive
      cases loads with
      | cons first more =>
      cases more with
      | cons second nothing =>
          cases nothing
          cases first
          cases second
          cases conforms : v.conforms returns with
          | true =>
              rw [if_neg (fun other => other.2 rfl)]
              have kept : step ctx methods [v] (.box returns) = ([], .next [v]) := if_pos conforms
              exact runFrom_next kept [.ret]
          | false =>
              rw [if_pos ⟨primitive, Bool.false_ne_true⟩, runFrom, step, conforms]
              rfl
    · rename_i composite
      rw [if_neg fun other => composite other.1]
      cases loads with
      | cons first nothing =>
          cases nothing
          cases first
          rfl

theorem runFrom_call {args : List Value} {index : Nat} {linked : Linked}
    (entry : methods[index]? = some linked) (code : List Resolved) :
    runFrom ctx methods args.reverse (.invokeController index args.length :: code) =
      match linked.handler ctx args with
      | .ok v => (⟨linked.symbol, args⟩ :: (runFrom ctx methods [v] code).1,
          (runFrom ctx methods [v] code).2)
      | .error message => ([⟨linked.symbol, args⟩], .error (.handler linked.symbol message)) := by
  have all : args.reverse.take args.length = args.reverse :=
    List.take_of_length_le (Nat.le_of_eq List.length_reverse)
  have none : args.reverse.drop args.length = [] :=
    List.drop_of_length_le (Nat.le_of_eq List.length_reverse)
  have enough : ¬args.reverse.length < args.length := by rw [List.length_reverse]; omega
  rw [runFrom, step, callController, if_neg enough, entry, all, none, List.reverse_reverse]
  cases answered : linked.handler ctx args with
  | ok v => simp only [answered]; rfl
  | error message => simp only [answered]

theorem runFrom_unit {controller : String} {m : DeclaredMethod} {u : AdapterUnit}
    {arguments : List (List Op)} {h : HandlerRegistry} {handler : Handler} (of : s.Standard)
    (adapts : u.Adapts s controller m arguments)
    (loads : List.Forall₂ (Op.LoadsAs refs) u.ops code)
    (linked : Linked.ofTable h refs = .ok methods)
    (registered : h.get? u.target.symbol = some ⟨u.target.descriptor, handler⟩) :
    runFrom ctx methods [] code = Binder.run ctx u.target.symbol handler u.params m.returns := by
  rw [adapts.ops] at loads
  obtain ⟨front, back, rfl, before, after⟩ := exists_append_of_forall₂ loads
  rw [runFrom_arguments of adapts.emits before, Binder.run]
  cases bound : Binder.arguments ctx u.params with
  | error e => rfl
  | ok args =>
      have length : args.length = u.params.length := (mapM_eq_ok.mp bound).length_eq.symm
      cases after with
      | @cons _ call _ returns first last =>
          cases first with
          | @controller _ index entry =>
              obtain ⟨l, found, bind⟩ := getElem?_of_forall₂ (Linked.ofTable_ok.mp linked) entry
              obtain ⟨known, symbol⟩ := Linked.ofRef_ok.mp bind
              cases registered.symm.trans known
              have argc : u.target.argCount.toNat = args.length := by
                rw [adapts.target, length, UInt8.toNat_ofNat', Nat.mod_eq_of_lt adapts.few]
              simp only [List.append_nil, argc, Binder.answer]
              rw [runFrom_call found, symbol]
              cases l.handler ctx args with
              | error message => rfl
              | ok v => simp only [runFrom_return last v]

end Machine
end RouteAdapter
