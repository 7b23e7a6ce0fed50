import RouteAdapter.Proofs.Binding.Dispatch

/-!
# Symbols

A symbol is the name of a controller and the name of a route with a dot in between. Both may have
dots in them, so a symbol says which method it is only if no route goes on where another controller
goes on: with the rest of its name and one of its routes.

* `Text.append_dot_eq_iff`: names that are joined to the same text;
* `Compiler.symbols_apart_iff`: the builds in which symbols are distinct;
* `Compiler.build_overlapping`: a build in which two methods have one handler.
-/

namespace RouteAdapter

theorem Text.append_dot_cases {a b c d more : List Char} (longer : c = a ++ more)
    (rest : '.' :: b = more ++ '.' :: d) :
    (a = c ∧ b = d) ∨ ∃ rest, c = a ++ '.' :: rest ∧ b = rest ++ '.' :: d := by
  cases more with
  | nil =>
      rw [List.append_nil] at longer
      exact .inl ⟨longer.symm, (List.cons.inj rest).2⟩
  | cons letter more =>
      obtain ⟨rfl, same⟩ := List.cons.inj rest
      exact .inr ⟨more, longer, same⟩

theorem Text.append_dot_eq_iff {a b c d : String} :
    a ++ "." ++ b = c ++ "." ++ d ↔
      (a = c ∧ b = d) ∨ (∃ rest, c = a ++ "." ++ rest ∧ b = rest ++ "." ++ d) ∨
        ∃ rest, a = c ++ "." ++ rest ∧ d = rest ++ "." ++ b := by
  have letters {a c : String} {rest : List Char} (same : c.toList = a.toList ++ '.' :: rest) :
      c = a ++ "." ++ String.ofList rest := by
    apply String.toList_inj.mp
    simpa using same
  have letters' {b d : String} {rest : List Char} (same : b.toList = rest ++ '.' :: d.toList) :
      b = String.ofList rest ++ "." ++ d := by
    apply String.toList_inj.mp
    simpa using same
  constructor
  · intro same
    have joined : a.toList ++ '.' :: b.toList = c.toList ++ '.' :: d.toList := by
      simpa using congrArg String.toList same
    obtain ⟨more, longer, rest⟩ | ⟨more, longer, rest⟩ := List.append_eq_append_iff.mp joined
    · obtain ⟨left, right⟩ | ⟨rest, left, right⟩ := append_dot_cases longer rest
      · exact .inl ⟨String.toList_inj.mp left, String.toList_inj.mp right⟩
      · exact .inr (.inl ⟨_, letters left, letters' right⟩)
    · obtain ⟨left, right⟩ | ⟨rest, left, right⟩ := append_dot_cases longer rest
      · exact .inl ⟨String.toList_inj.mp left.symm, String.toList_inj.mp right.symm⟩
      · exact .inr (.inr ⟨_, letters left, letters' right⟩)
  · rintro (⟨rfl, rfl⟩ | ⟨rest, rfl, rfl⟩ | ⟨rest, rfl, rfl⟩) <;> simp [String.append_assoc]

namespace Controller

variable {s : Schema} {suffix : String} {c : Controller} {e : EmittedClass}

/-- A route of the first controller goes on like the second one: with what its name has more, and
one of its routes. -/
def Overlaps (c c' : Controller) : Prop :=
  ∃ m ∈ c.methods, ∃ m' ∈ c'.methods, ∃ rest,
    c'.name = c.name ++ "." ++ rest ∧ m.name = rest ++ "." ++ m'.name

theorem not_overlaps {c c' : Controller} (plain : ∀ m ∈ c.methods, '.' ∉ m.name.toList) :
    ¬c.Overlaps c' := by
  rintro ⟨m, method, m', -, rest, -, goesOn⟩
  apply plain m method
  simp [goesOn]

theorem Compiled.symbol (compiled : c.Compiled s suffix e) {u : AdapterUnit} (unit : u ∈ e.units) :
    ∃ m ∈ c.methods, u.target.symbol = c.symbol m ∧ u.route = m.name := by
  obtain ⟨m, member, arguments, adapts⟩ := compiled.adapts unit
  exact ⟨m, member, congrArg MethodRef.symbol adapts.target, adapts.route⟩

theorem Compiled.exists_unit (compiled : c.Compiled s suffix e) {m : DeclaredMethod}
    (method : m ∈ c.methods) :
    ∃ u ∈ e.units, u.target.symbol = c.symbol m ∧ u.route = m.name := by
  obtain ⟨u, unit, emitted⟩ := exists_of_mem_forall₂ compiled.units method
  obtain ⟨arguments, adapts⟩ := Emitter.emit_ok emitted
  exact ⟨u, unit, congrArg MethodRef.symbol adapts.target, adapts.route⟩

end Controller

theorem Compiler.symbols_apart_iff {compiler : Compiler} {controllers : List Controller}
    {modules : List Module} (built : compiler.build controllers = .ok modules) :
    let classes := (compiler.compile .empty controllers).2.classes
    (∀ e ∈ classes, ∀ u ∈ e.units, ∀ e' ∈ classes, ∀ u' ∈ e'.units,
      u.target.symbol = u'.target.symbol → e.controller = e'.controller ∧ u.route = u'.route) ↔
      ∀ c ∈ controllers, ∀ c' ∈ controllers, ¬c.Overlaps c' := by
  intro classes
  obtain ⟨classes', compiled, -, rfl⟩ := compile_ok (build_eq_ok.mp built).1
  constructor
  · rintro apart c declared c' declared' ⟨m, method, m', method', rest, longer, goesOn⟩
    obtain ⟨e, emitted, of⟩ := exists_of_mem_forall₂ compiled declared
    obtain ⟨e', emitted', of'⟩ := exists_of_mem_forall₂ compiled declared'
    obtain ⟨u, unit, symbol, -⟩ := of.exists_unit method
    obtain ⟨u', unit', symbol', -⟩ := of'.exists_unit method'
    have joined : u.target.symbol = u'.target.symbol := by
      rw [symbol, symbol', Controller.symbol, Controller.symbol]
      exact Text.append_dot_eq_iff.mpr (.inr (.inl ⟨rest, longer, goesOn⟩))
    obtain ⟨same, -⟩ := apart e emitted u unit e' emitted' u' unit' joined
    rw [of.controller, of'.controller] at same
    have length := congrArg String.length (same.trans longer)
    simp only [String.length_append] at length
    have dot : ".".length = 1 := rfl
    omega
  · intro apart e emitted u unit e' emitted' u' unit' same
    obtain ⟨c, declared, of⟩ := exists_of_mem_forall₂_right compiled emitted
    obtain ⟨c', declared', of'⟩ := exists_of_mem_forall₂_right compiled emitted'
    obtain ⟨m, method, symbol, route⟩ := of.symbol unit
    obtain ⟨m', method', symbol', route'⟩ := of'.symbol unit'
    rw [symbol, symbol', Controller.symbol, Controller.symbol, Text.append_dot_eq_iff] at same
    rw [of.controller, of'.controller, route, route']
    obtain both | ⟨rest, longer, goesOn⟩ | ⟨rest, longer, goesOn⟩ := same
    · exact both
    · exact absurd ⟨m, method, m', method', rest, longer, goesOn⟩ (apart c declared c' declared')
    · exact absurd ⟨m', method', m, method, rest, longer, goesOn⟩ (apart c' declared' c declared)

def Controller.shop (routes : List String) : Controller :=
  ⟨"Shop", routes.map fun route => ⟨route, [], .str⟩⟩

def Controller.cart : Controller :=
  ⟨"Shop.Cart", [⟨"add", [], .str⟩]⟩

theorem Compiler.symbols_apart_shop :
    let compiler : Compiler := ⟨.standard, Config.standard.schema⟩
    let controllers : List Controller := [.shop ["Cart", "add"], .cart]
    let classes := (compiler.compile .empty controllers).2.classes
    (∃ modules, compiler.build controllers = .ok modules) ∧
    ∀ e ∈ classes, ∀ u ∈ e.units, ∀ e' ∈ classes, ∀ u' ∈ e'.units,
      u.target.symbol = u'.target.symbol → e.controller = e'.controller ∧ u.route = u'.route := by
  intro compiler controllers classes
  obtain ⟨modules, built, -⟩ : ∃ modules, compiler.build controllers = .ok modules ∧ True :=
    exists_ok_of_toOption (by decide +kernel) (by simp)
  have plain : ∀ c ∈ controllers, ∀ m ∈ c.methods, '.' ∉ m.name.toList := by decide +kernel
  exact ⟨⟨modules, built⟩, (symbols_apart_iff built).mpr fun c declared c' _ =>
    Controller.not_overlaps (plain c declared)⟩

set_option maxRecDepth 4000 in
/-- One handler is called for the routes of two controllers. -/
theorem Compiler.build_overlapping :
    let compiler : Compiler := ⟨.standard, Config.standard.schema⟩
    let controllers : List Controller := [.shop ["Cart.add"], .cart]
    let classes := (compiler.compile .empty controllers).2.classes
    let handlers :=
      HandlerRegistry.empty.register "Shop.Cart.add" "()->str" fun _ _ => .ok (.str "")
    let ctx := Request.empty.toContext
    ∃ modules registry, compiler.build controllers = .ok modules ∧
      (∃ e ∈ classes, ∃ u ∈ e.units, ∃ e' ∈ classes, ∃ u' ∈ e'.units,
        u.target.symbol = u'.target.symbol ∧ e.controller ≠ e'.controller) ∧
      (UnitRegistry.empty handlers).loadAll (modules.map Module.encode) = .ok registry ∧
      (registry.dispatch "Shop$Adapter" "Cart.add" ctx).1.map Call.symbol = ["Shop.Cart.add"] ∧
      (registry.dispatch "Shop.Cart$Adapter" "add" ctx).1.map Call.symbol = ["Shop.Cart.add"] := by
  intro compiler controllers classes handlers ctx
  let filled (modules : List Module) : Except LoadError UnitRegistry :=
    (UnitRegistry.empty handlers).loadAll (modules.map Module.encode)
  obtain ⟨modules, built, answered, calls⟩ : ∃ modules, compiler.build controllers = .ok modules ∧
      (filled modules).toOption.isSome ∧ ∀ registry ∈ (filled modules).toOption,
        (registry.dispatch "Shop$Adapter" "Cart.add" ctx).1.map Call.symbol = ["Shop.Cart.add"] ∧
        (registry.dispatch "Shop.Cart$Adapter" "add" ctx).1.map Call.symbol = ["Shop.Cart.add"] :=
    exists_ok_of_toOption (by decide +kernel) (by decide +kernel)
  obtain ⟨registry, loaded, first, second⟩ := exists_ok_of_toOption answered calls
  exact ⟨modules, registry, built, by decide +kernel, loaded, first, second⟩

end RouteAdapter
