import RouteAdapter.Build
import RouteAdapter.Proofs.Emission.Method
import RouteAdapter.Proofs.Emission.Siblings

/-!
# The classes of a build

A build without failures has one class for each controller, in their order, and each class has one
unit for each method of its controller. The names of the classes are distinct, and so are the routes
of each class.

* `Controller.emitAll_ok`: the classes that a table has after a compilation without failures;
* `Compiler.build_ok`: the classes whose modules a build returns.
-/

namespace RouteAdapter

theorem Report.isOk_iff {r : Report} : r.isOk ↔ r.classFailures = [] ∧ r.methodFailures = [] := by
  rw [isOk, Bool.and_eq_true, List.isEmpty_iff, List.isEmpty_iff]

/-- What a class without failures is for its controller. -/
structure Controller.Compiled (s : Schema) (suffix : String) (c : Controller) (e : EmittedClass) :
    Prop where
  name : e.name = c.className suffix
  controller : e.controller = c.name
  interface : e.interface = Module.dispatchInterface
  routes : (c.methods.map DeclaredMethod.name).Nodup
  units : List.Forall₂ (fun m u => Emitter.emit s c.name m = .ok u) c.methods e.units

namespace Controller

variable {s : Schema} {suffix : String}

theorem forall₂_emit {c : Controller} {methods : List DeclaredMethod}
    (none : methods.filterMap (failure? s c) = []) :
    List.Forall₂ (fun m u => Emitter.emit s c.name m = .ok u) methods
      (methods.filterMap fun m => (Emitter.emit s c.name m).toOption) := by
  induction methods with
  | nil => exact .nil
  | cons m methods ih =>
      rw [List.filterMap_cons, failure?] at none
      rw [List.filterMap_cons]
      cases emitted : Emitter.emit s c.name m with
      | ok u =>
          rw [emitted] at none
          exact .cons emitted (ih none)
      | error errors =>
          rw [emitted] at none
          cases none

theorem compiled_adapter {c : Controller} (valid : c.Valid) (none : c.failures s = []) :
    c.Compiled s suffix (c.adapter s suffix) :=
  ⟨rfl, rfl, rfl, valid.2.2, forall₂_emit none⟩

theorem emitAll_ok {t : ClassTable} {controllers : List Controller}
    (ok : (emitAll s suffix t controllers).1.isOk) (distinct : t.names.Nodup) :
    ∃ classes, List.Forall₂ (Compiled s suffix) controllers classes ∧
      (emitAll s suffix t controllers).2.classes = t.classes ++ classes ∧
        (emitAll s suffix t controllers).2.names.Nodup := by
  obtain ⟨classes, -, failed, methods, -, apart⟩ := emitAll_separate s suffix t controllers
  obtain ⟨noClass, noMethod⟩ := Report.isOk_iff.mp ok
  rw [noClass, List.forall₂_nil_right_iff] at failed
  obtain ⟨same, valid⟩ := accepted_of_refused failed
  rw [same, noMethod] at methods
  rw [same] at classes
  refine ⟨_, ?_, classes, apart distinct⟩
  rw [List.forall₂_map_right_iff, List.forall₂_same]
  intro c member
  exact compiled_adapter (valid c member) (List.flatMap_eq_nil_iff.mp methods.symm c member)

end Controller

namespace Controller.Compiled

variable {s : Schema} {suffix : String} {c : Controller} {e : EmittedClass}

theorem adapts (compiled : c.Compiled s suffix e) {u : AdapterUnit} (unit : u ∈ e.units) :
    ∃ m ∈ c.methods, ∃ arguments, u.Adapts s c.name m arguments := by
  obtain ⟨m, member, emitted⟩ := exists_of_mem_forall₂_right compiled.units unit
  exact ⟨m, member, Emitter.emit_ok emitted⟩

end Controller.Compiled

theorem EmittedClass.lowerAll_ok {options : LowerOptions} {classes : List EmittedClass}
    {modules : List Module} :
    lowerAll options classes = .ok modules ↔
      List.Forall₂ (fun e m => e.lower options = .ok m) classes modules := by
  rw [← mapM_eq_ok]
  induction classes generalizing modules with
  | nil => rfl
  | cons e classes ih => simp only [lowerAll, List.mapM_cons, bind_eq_ok, ih]

namespace Compiler

variable {compiler : Compiler} {controllers : List Controller}

theorem compile_ok (ok : (compiler.compile .empty controllers).1.isOk) :
    ∃ classes,
      List.Forall₂ (Controller.Compiled compiler.schema compiler.config.classSuffix) controllers
        classes ∧
      (classes.map EmittedClass.name).Nodup ∧
      (compiler.compile .empty controllers).2.classes = classes := by
  obtain ⟨classes, compiled, all, distinct⟩ := Controller.emitAll_ok ok List.nodup_nil
  rw [ClassTable.names, all] at distinct
  exact ⟨classes, compiled, distinct, all⟩

theorem build_eq_ok {modules : List Module} :
    compiler.build controllers = .ok modules ↔
      (compiler.compile .empty controllers).1.isOk ∧
        compiler.lower (compiler.compile .empty controllers).2 = .ok modules := by
  simp only [build, bind_eq_ok, mapError_eq_ok, Report.toResult]
  constructor
  · rintro ⟨names, reported, lowered⟩
    split at reported
    · rename_i ok
      exact ⟨ok, lowered⟩
    · cases reported
  · rintro ⟨ok, lowered⟩
    exact ⟨_, if_pos ok, lowered⟩

theorem build_ok {modules : List Module} (built : compiler.build controllers = .ok modules) :
    ∃ classes,
      List.Forall₂ (Controller.Compiled compiler.schema compiler.config.classSuffix) controllers
        classes ∧
      (classes.map EmittedClass.name).Nodup ∧
      List.Forall₂ (fun e m => e.lower compiler.config.lowerOptions = .ok m) classes modules := by
  obtain ⟨ok, lowered⟩ := build_eq_ok.mp built
  obtain ⟨classes, compiled, distinct, all⟩ := compile_ok ok
  rw [lower, all] at lowered
  exact ⟨classes, compiled, distinct, EmittedClass.lowerAll_ok.mp lowered⟩

end Compiler
end RouteAdapter
