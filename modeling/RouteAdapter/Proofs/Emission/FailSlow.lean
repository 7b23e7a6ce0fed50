import RouteAdapter.Proofs.Emission.Verification

/-!
# Compilation goes on after failures

A compilation reports all failures and keeps what does not fail. A build returns modules exactly if
there is no failure and the verifier accepts what was emitted, which only an irregular schema can
prevent.

* `Compiler.compile_separate`: compilations, and the builds that return modules;
* `Compiler.build_irregular`: a build that has no failure and no modules.
-/

namespace RouteAdapter

theorem Controller.Compiled.exists_lower {s : Schema} {suffix : String} {c : Controller}
    {e : EmittedClass} {options : LowerOptions} (compiled : c.Compiled s suffix e)
    (unverified : options.verify = false) : ∃ m, e.lower options = .ok m := by
  have boxable : ∀ u ∈ e.units, ∀ op ∈ u.ops, op.Boxable := by
    intro u unit
    obtain ⟨m, -, arguments, adapts⟩ := compiled.adapts unit
    exact adapts.boxable
  obtain ⟨t, functions, lowered⟩ := AdapterUnit.exists_lowerAll Tables.empty boxable
  refine ⟨e.assemble options t functions, bind_eq_ok.mpr ⟨_, lowered, ?_⟩⟩
  dsimp only
  rw [unverified]
  rfl

namespace Compiler

variable {compiler : Compiler} {controllers : List Controller}

theorem exists_build_unverified (unverified : compiler.config.verify = false)
    (ok : (compiler.compile .empty controllers).1.isOk) :
    ∃ modules, compiler.build controllers = .ok modules := by
  obtain ⟨classes, compiled, -, all⟩ := compile_ok ok
  have each : ∀ e ∈ classes, ∃ m, e.lower compiler.config.lowerOptions = .ok m := by
    intro e member
    obtain ⟨c, -, of⟩ := exists_of_mem_forall₂_right compiled member
    exact of.exists_lower unverified
  obtain ⟨modules, lowered⟩ := exists_forall₂ each
  refine ⟨modules, build_eq_ok.mpr ⟨ok, ?_⟩⟩
  rw [lower, all]
  exact EmittedClass.lowerAll_ok.mpr lowered

/-- Lowering does not verify the classes, or the verifier cannot refuse them. -/
def Unrefused (compiler : Compiler) (controllers : List Controller) : Prop :=
  compiler.config.verify = false ∨
    ((∃ config, ofConfig config = .ok compiler) ∨ compiler.schema.Regular) ∧
      ∀ c ∈ controllers, c.Addressable compiler.schema compiler.config

theorem Unrefused.exists_build (unrefused : compiler.Unrefused controllers)
    (ok : (compiler.compile .empty controllers).1.isOk) :
    ∃ modules, compiler.build controllers = .ok modules := by
  obtain unverified | ⟨known, sized⟩ := unrefused
  · exact exists_build_unverified unverified ok
  · have regular : compiler.schema.Regular := by
      obtain ⟨config, configured⟩ | regular := known
      · exact regular_of_ofConfig configured
      · exact regular
    obtain ⟨modules, built, -⟩ := Compiler.exists_build regular sized ok
    exact ⟨modules, built⟩

/-- A compilation treats its controllers and their methods separately. A build returns its report
if there is a failure, and modules if there is none and the classes can be lowered. -/
theorem compile_separate (compiler : Compiler) (t : ClassTable) (controllers : List Controller) :
    Controller.Separate compiler.schema compiler.config.classSuffix t controllers
      (compiler.compile t controllers).1 (compiler.compile t controllers).2 ∧
    let report := (compiler.compile .empty controllers).1
    (∀ modules, compiler.build controllers = .ok modules ↔
      (report.classFailures = [] ∧ report.methodFailures = []) ∧
        compiler.lower (compiler.compile .empty controllers).2 = .ok modules) ∧
    (¬(report.classFailures = [] ∧ report.methodFailures = []) →
      compiler.build controllers = .error (.aggregate report)) ∧
    (compiler.Unrefused controllers →
      ((∃ modules, compiler.build controllers = .ok modules) ↔
        report.classFailures = [] ∧ report.methodFailures = [])) := by
  refine ⟨Controller.emitAll_separate _ _ t controllers, fun modules => ?_, fun failed => ?_,
    fun unrefused => ?_⟩
  · rw [build_eq_ok, Report.isOk_iff]
  · exact build_failed (Bool.eq_false_iff.mpr (mt Report.isOk_iff.mp failed))
  · rw [← Report.isOk_iff]
    constructor
    · rintro ⟨modules, built⟩
      exact (build_eq_ok.mp built).1
    · exact unrefused.exists_build

/-- The accessor takes one argument more than is pushed for it. -/
def irregular : Compiler :=
  ⟨.standard, Schema.standard.insert (.path, .named) ⟨"path", [.str, .str], .value⟩⟩

def found : DeclaredMethod :=
  ⟨"find", [⟨"id", .str, [⟨"path", none⟩]⟩], .str⟩

/-- Emission does not look at the stack: the verifier refuses what it accepted. -/
theorem build_irregular :
    let report := (irregular.compile .empty [⟨"C", [found]⟩]).1
    (report.classFailures = [] ∧ report.methodFailures = []) ∧
      irregular.build [⟨"C", [found]⟩] =
        .error (.lower (.verification "C$Adapter" (.stackUnderflow 6))) := by
  intro report
  have none : report.classFailures = [] ∧ report.methodFailures = [] := by decide +kernel
  have lowered : irregular.lower (irregular.compile .empty [⟨"C", [found]⟩]).2 =
      .error (.verification "C$Adapter" (.stackUnderflow 6)) := by
    decide +kernel
  have reported : report.toResult = .ok report.emitted := if_pos (Report.isOk_iff.mpr none)
  refine ⟨none, ?_⟩
  simp only [build, report] at reported ⊢
  rw [reported, lowered]
  rfl

def mixed : Controller :=
  ⟨"Users", [found, ⟨"page", [⟨"number", .i32, []⟩], .str⟩]⟩

theorem compile_separate_mixed :
    let compiler : Compiler := ⟨.standard, Config.standard.schema⟩
    let t : ClassTable := ⟨[(⟨"Health", []⟩ : Controller).adapter compiler.schema "$Adapter"]⟩
    let controllers : List Controller := [⟨"9bad", []⟩, mixed, ⟨"Health", [found]⟩, mixed]
    let report := (compiler.compile t controllers).1
    t.names.Nodup ∧ (compiler.compile t controllers).2.names.Nodup ∧
      (compiler.compile t controllers).2.classes =
        t.classes ++ [mixed.adapter compiler.schema "$Adapter"] ∧
      report.emitted = ["Users$Adapter"] ∧ report.classFailures.length = 3 ∧
      report.methodFailures = mixed.failures compiler.schema ∧
      compiler.Unrefused [⟨"Users", [found]⟩] ∧
      (∃ modules, compiler.build [⟨"Users", [found]⟩] = .ok modules) ∧
      ∃ report, report.methodFailures ≠ [] ∧
        compiler.build [mixed] = .error (.aggregate report) := by
  intro compiler t controllers report
  have distinct : t.names.Nodup := by decide +kernel
  have accepted : Controller.accepted compiler.config.classSuffix t controllers = [mixed] := by
    decide +kernel
  have refused : (Controller.refused compiler.config.classSuffix t controllers).length = 3 := by
    decide +kernel
  have unrefused : compiler.Unrefused [⟨"Users", [found]⟩] := by
    refine .inr ⟨.inl ⟨_, ofConfig_standard⟩, fun c member e compiled => ?_⟩
    obtain rfl := List.mem_singleton.mp member
    exact compiled.addressable (by decide) (by decide)
  obtain ⟨⟨classes, emitted, failures, methods, -, apart⟩, -⟩ :=
    compile_separate compiler t controllers
  obtain ⟨-, -, -, total⟩ := compile_separate compiler .empty [⟨"Users", [found]⟩]
  obtain ⟨-, -, failing, -⟩ := compile_separate compiler .empty [mixed]
  rw [accepted] at classes emitted methods
  have some : (compiler.compile .empty [mixed]).1.methodFailures ≠ [] := by decide +kernel
  refine ⟨distinct, apart distinct, classes, emitted, ?_, ?_, unrefused, ?_, _, some, ?_⟩
  · rw [← refused]
    exact failures.length_eq.symm
  · exact methods.trans (List.append_nil _)
  · exact (total unrefused).mpr (by decide +kernel)
  · exact failing fun ⟨_, empty⟩ => some empty

end Compiler
end RouteAdapter
