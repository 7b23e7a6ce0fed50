import RouteAdapter.Proofs.Format.Module

/-!
# Faithful readers

`Takes r write p` says that wherever the reader succeeds, it has taken what is written for its
answer, which satisfies `p`. It is the converse of `Reads`: no two byte strings are read as one
answer.

* `Reader.run_bind`: a sequence of readers, read backwards from its success;
* `takes_text`, `Takes.table`: texts and tables;
* `Function.takes`, `ClassDef.takes`, `Reflection.takes` and the like: the records of the format.
-/

namespace RouteAdapter
open Bytes

namespace Reader

variable {ε δ α β : Type}

/-! ## Successful runs -/

theorem run_bind {r : Reader ε α} {f : α → Reader ε β} {c c' : Cursor} {b : β} :
    (r >>= f) c = (.ok b, c') ↔ ∃ a mid, r c = (.ok a, mid) ∧ f a mid = (.ok b, c') := by
  show Reader.bind r f c = _ ↔ _
  unfold Reader.bind
  rcases r c with ⟨answer, mid⟩
  cases answer with
  | error e => simp
  | ok a => simp

theorem run_pure {a b : α} {c c' : Cursor} :
    (pure a : Reader ε α) c = (.ok b, c') ↔ a = b ∧ c = c' := by
  show ((.ok a, c) : Except ε α × Cursor) = _ ↔ _
  simp

theorem run_fail {e : ε} {a : α} {c c' : Cursor} :
    (fail e : Reader ε α) c = (.ok a, c') ↔ False := by
  simp [fail]

theorem run_guard {p : Prop} [Decidable p] {e : ε} {rest : Unit → Reader ε α} {a : α}
    {c c' : Cursor} :
    (if p then fail e >>= rest else rest ()) c = (.ok a, c') ↔ ¬ p ∧ rest () c = (.ok a, c') := by
  by_cases failing : p
  · simp [failing, run_bind, run_fail]
  · simp [failing]

theorem run_mapError {f : ε → δ} {r : Reader ε α} {a : α} {c c' : Cursor} :
    mapError f r c = (.ok a, c') ↔ r c = (.ok a, c') := by
  unfold mapError
  rcases r c with ⟨answer, mid⟩
  cases answer with
  | error e => simp
  | ok b => simp

/-! ## What a successful reader has taken -/

def Takes (r : Reader ε α) (write : α → Bytes) (p : α → Prop) : Prop :=
  ∀ c a c', r c = (.ok a, c') → p a ∧ c.rest = write a ++ c'.rest

theorem takes_byte : Takes byte (fun b => [b]) fun _ => True := by
  rintro ⟨position, rest⟩ b c' read
  cases rest with
  | nil => simp [byte] at read
  | cons first rest =>
      simp only [byte, Prod.mk.injEq, Except.ok.injEq] at read
      obtain ⟨rfl, rfl⟩ := read
      exact ⟨trivial, rfl⟩

theorem takes_four : Takes four Vector.toList fun _ => True := by
  rintro ⟨position, rest⟩ v c' read
  match rest with
  | a :: b :: c :: d :: rest =>
      simp only [four, Prod.mk.injEq, Except.ok.injEq] at read
      obtain ⟨rfl, rfl⟩ := read
      exact ⟨trivial, rfl⟩
  | [] | [_] | [_, _] | [_, _, _] => simp [four] at read

theorem takes_word : Takes word ofWord fun _ => True := by
  intro c w c' read
  obtain ⟨v, mid, first, whole⟩ := run_bind.mp read
  obtain ⟨rfl, rfl⟩ := run_pure.mp whole
  obtain ⟨-, taken⟩ := takes_four c v mid first
  refine ⟨trivial, ?_⟩
  rw [taken, ofWord_toWord]
  have letters : v.toList = [v[0], v[1], v[2], v[3]] := by
    apply List.ext_getElem
    · simp
    · intro i bound _
      obtain rfl | rfl | rfl | rfl : i = 0 ∨ i = 1 ∨ i = 2 ∨ i = 3 := by
        simp at bound
        omega
      all_goals simp
  rw [letters]

theorem takes_count : Takes count ofCount (· < UInt32.size) := by
  intro c n c' read
  obtain ⟨w, mid, first, whole⟩ := run_bind.mp read
  obtain ⟨rfl, rfl⟩ := run_pure.mp whole
  obtain ⟨-, taken⟩ := takes_word c w mid first
  refine ⟨w.toNat_lt, ?_⟩
  rw [taken, ofCount, UInt32.ofNat_toNat]

theorem takes_take (n : Nat) : Takes (take n) id (·.length = n) := by
  rintro ⟨position, rest⟩ bytes c' read
  simp only [take] at read
  cases parts : split? n rest with
  | none => simp [parts] at read
  | some parted =>
      obtain ⟨front, back⟩ := parted
      simp only [parts, Prod.mk.injEq, Except.ok.injEq] at read
      obtain ⟨rfl, rfl⟩ := read
      obtain ⟨whole, length⟩ := eq_append_of_split? parts
      exact ⟨length, whole⟩

theorem takes_text : Takes text ofText FitsText := by
  intro c s c' read
  simp only [text, run_bind] at read
  obtain ⟨n, first, counted, start, second, placed, bytes, third, taken, decoded⟩ := read
  obtain ⟨bound, front⟩ := takes_count c n first counted
  obtain ⟨-, rfl⟩ : start = first.position ∧ first = second := by
    simpa [position, eq_comm] using placed
  obtain ⟨rfl, middle⟩ := takes_take n first bytes third taken
  cases letters : utf8? bytes with
  | none => simp [letters, run_fail] at decoded
  | some found =>
      simp only [letters, run_pure] at decoded
      obtain ⟨rfl, rfl⟩ := decoded
      have written := utf8_of_utf8? letters
      refine ⟨by rwa [FitsText, written], ?_⟩
      rw [front, middle, ofText, written, List.append_assoc]
      rfl

theorem Takes.times {item : Reader ε α} {write : α → Bytes} {p : α → Prop}
    (each : Takes item write p) (n : Nat) :
    Takes (times item n) (·.flatMap write) fun entries =>
      entries.length = n ∧ ∀ a ∈ entries, p a := by
  induction n with
  | zero =>
      intro c entries c' read
      obtain ⟨rfl, rfl⟩ := run_pure.mp read
      exact ⟨⟨rfl, by simp⟩, rfl⟩
  | succ n ih =>
      intro c entries c' read
      simp only [Reader.times, run_bind, run_pure] at read
      obtain ⟨a, first, head, others, second, tail, rfl, rfl⟩ := read
      obtain ⟨holds, front⟩ := each c a first head
      obtain ⟨⟨rfl, all⟩, back⟩ := ih first others second tail
      refine ⟨⟨rfl, List.forall_mem_cons.mpr ⟨holds, all⟩⟩, ?_⟩
      simp only [front, back, List.flatMap_cons, List.append_assoc]

theorem Takes.tableWith (lift : ReadError → ε) {item : Reader ε α} {write : α → Bytes}
    {p : α → Prop} (each : Takes item write p) :
    Takes (tableWith lift item) (ofTable write) (FitsTable p) := by
  intro c entries c' read
  simp only [Reader.tableWith, run_bind, run_mapError] at read
  obtain ⟨n, first, counted, listed⟩ := read
  obtain ⟨bound, front⟩ := takes_count c n first counted
  obtain ⟨⟨rfl, all⟩, back⟩ := each.times n first entries c' listed
  refine ⟨⟨bound, all⟩, ?_⟩
  rw [front, back, ofTable, List.append_assoc]

theorem Takes.table {item : Reader ReadError α} {write : α → Bytes} {p : α → Prop}
    (each : Takes item write p) : Takes (table item) (ofTable write) (FitsTable p) :=
  each.tableWith id

end Reader

/-! ## Records -/

open Reader

theorem map_eq_self {α : Type} {f : α → α} {entries : List α} (same : ∀ a ∈ entries, f a = a) :
    entries.map f = entries :=
  (List.map_congr_left same).trans (List.map_id entries)

theorem AccessorRef.takes : Takes AccessorRef.read AccessorRef.bytes AccessorRef.Sized := by
  intro c a c' read
  simp only [AccessorRef.read, run_bind, run_pure] at read
  obtain ⟨name, c₁, first, descriptor, c₂, second, arity, c₃, third, rfl, rfl⟩ := read
  obtain ⟨nameFits, front⟩ := takes_text _ _ _ first
  obtain ⟨descriptorFits, middle⟩ := takes_text _ _ _ second
  obtain ⟨-, back⟩ := takes_byte _ _ _ third
  refine ⟨⟨nameFits, descriptorFits⟩, ?_⟩
  simp only [front, middle, back, AccessorRef.bytes, List.append_assoc]

theorem MethodRef.takes : Takes MethodRef.read MethodRef.bytes MethodRef.Sized := by
  intro c m c' read
  simp only [MethodRef.read, run_bind, run_pure] at read
  obtain ⟨symbol, c₁, first, descriptor, c₂, second, argCount, c₃, third, rfl, rfl⟩ := read
  obtain ⟨symbolFits, front⟩ := takes_text _ _ _ first
  obtain ⟨descriptorFits, middle⟩ := takes_text _ _ _ second
  obtain ⟨-, back⟩ := takes_byte _ _ _ third
  refine ⟨⟨symbolFits, descriptorFits⟩, ?_⟩
  simp only [front, middle, back, MethodRef.bytes, List.append_assoc]

theorem Function.takes :
    Takes Function.read Function.bytes fun f => f.Sized ∧ f.stored = f := by
  intro c f c' read
  simp only [Function.read, run_bind, run_pure] at read
  obtain ⟨name, c₁, first, params, c₂, second, locals, c₃, third, size, c₄, fourth, code, c₅, fifth,
    rfl, rfl⟩ := read
  obtain ⟨nameFits, nameTaken⟩ := takes_text _ _ _ first
  obtain ⟨paramsFit, paramsTaken⟩ := takes_count _ _ _ second
  obtain ⟨localsFit, localsTaken⟩ := takes_count _ _ _ third
  obtain ⟨codeFits, sizeTaken⟩ := takes_count _ _ _ fourth
  obtain ⟨rfl, codeTaken⟩ := takes_take _ _ _ _ fifth
  refine ⟨⟨⟨nameFits, codeFits⟩, ?_⟩, ?_⟩
  · simp only [Function.stored, Nat.mod_eq_of_lt paramsFit, Nat.mod_eq_of_lt localsFit]
  · simp only [nameTaken, paramsTaken, localsTaken, sizeTaken, codeTaken, Function.bytes, ofTable,
      flatMap_singleton, List.append_assoc, id_eq]

theorem Route.takes : Takes Route.read Route.bytes fun r => r.Sized ∧ r.stored = r := by
  intro c r c' read
  simp only [Route.read, run_bind, run_pure] at read
  obtain ⟨name, c₁, first, functionId, c₂, second, rfl, rfl⟩ := read
  obtain ⟨nameFits, front⟩ := takes_text _ _ _ first
  obtain ⟨idFits, back⟩ := takes_count _ _ _ second
  refine ⟨⟨nameFits, ?_⟩, ?_⟩
  · simp only [Route.stored, Nat.mod_eq_of_lt idFits]
  · simp only [front, back, Route.bytes, List.append_assoc]

theorem ClassDef.takes : Takes ClassDef.read ClassDef.bytes fun c => c.Sized ∧ c.stored = c := by
  intro c cls c' read
  simp only [ClassDef.read, run_bind, run_pure] at read
  obtain ⟨name, c₁, first, interface, c₂, second, controller, c₃, third, methods, c₄, fourth,
    rfl, rfl⟩ := read
  obtain ⟨nameFits, nameTaken⟩ := takes_text _ _ _ first
  obtain ⟨interfaceFits, interfaceTaken⟩ := takes_text _ _ _ second
  obtain ⟨controllerFits, controllerTaken⟩ := takes_text _ _ _ third
  obtain ⟨⟨count, routes⟩, methodsTaken⟩ := Route.takes.table _ _ _ fourth
  have same : methods.map Route.stored = methods := map_eq_self fun r member => (routes r member).2
  refine ⟨⟨⟨nameFits, interfaceFits, controllerFits, count,
    fun r member => (routes r member).1⟩, ?_⟩,
    ?_⟩
  · simp only [ClassDef.stored, same]
  · simp only [nameTaken, interfaceTaken, controllerTaken, methodsTaken, ClassDef.bytes,
      List.append_assoc]

theorem ParamReflection.takes :
    Takes ParamReflection.read ParamReflection.bytes ParamReflection.Sized := by
  intro c p c' read
  simp only [ParamReflection.read, run_bind, run_pure] at read
  obtain ⟨name, c₁, first, httpName, c₂, second, annotation, c₃, third, typeName, c₄, fourth,
    rfl, rfl⟩ := read
  obtain ⟨nameFits, nameTaken⟩ := takes_text _ _ _ first
  obtain ⟨httpNameFits, httpNameTaken⟩ := takes_text _ _ _ second
  obtain ⟨annotationFits, annotationTaken⟩ := takes_text _ _ _ third
  obtain ⟨typeNameFits, typeNameTaken⟩ := takes_text _ _ _ fourth
  refine ⟨⟨nameFits, httpNameFits, annotationFits, typeNameFits⟩, ?_⟩
  simp only [nameTaken, httpNameTaken, annotationTaken, typeNameTaken, ParamReflection.bytes,
    List.append_assoc]

theorem Reflection.takes :
    Takes Reflection.read Reflection.bytes (FitsTable (FitsTable ParamReflection.Sized)) :=
  ParamReflection.takes.table.table

theorem Pool.takes :
    Takes Pool.read Pool.bytes fun pool =>
      FitsTable FitsText pool.strings ∧ pool = Pool.ofStrings pool.strings := by
  intro c pool c' read
  simp only [Pool.read, run_bind, run_pure] at read
  obtain ⟨strings, mid, listed, rfl, rfl⟩ := read
  obtain ⟨fits, taken⟩ := takes_text.table _ _ _ listed
  exact ⟨⟨fits, rfl⟩, taken⟩

end RouteAdapter
