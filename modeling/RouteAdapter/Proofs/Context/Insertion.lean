import RouteAdapter.Context.Basic
import RouteAdapter.Proofs.Dict

/-!
# Requests and the values inserted into them

A request is a history of insertions. Under each facet and name it holds what was inserted there, in
order, and the single answers and the maps of a context are two views of it.

* `Request.valuesAt`: the values of a history under one facet and name;
* `Request.get?_insertAll`: what a history leaves there;
* `Request.facets_insertAll`: the part of the history that makes a facet;
* `Request.answers_contextOf`: the answers of a context.
-/

namespace RouteAdapter

theorem RawValue.firstPresent_eq (name : String) (raws : List RawValue) :
    RawValue.firstPresent name raws =
      (raws.find? fun raw => !raw.isMissing).getD (.missing name) := by
  induction raws with
  | nil => rfl
  | cons raw raws ih => cases missing : raw.isMissing <;> simp [RawValue.firstPresent, missing, ih]

namespace Context

def single (c : Context) : Facet → String → RawValue
  | .path => c.path
  | .query => c.query
  | .header => c.header
  | .form => c.form
  | .session => c.session
  | .flash => c.flash

def object (c : Context) : Facet → ValueMap
  | .path => c.pathMap
  | .query => c.queryMap
  | .header => c.headerMap
  | .form => c.formMap
  | .session => c.sessionMap
  | .flash => c.flashMap

end Context

namespace Request

/-- The facet, the name and the value of an insertion. -/
abbrev Entry := Facet × String × String

/-- What was inserted under a facet and a name, in order. -/
def valuesAt (facet : Facet) (name : String) (entries : List Entry) : List String :=
  (entries.filter fun e => e.1 = facet ∧ e.2.1 = name).map fun e => e.2.2

variable {facet : Facet} {name : String} {entries : List Entry}

theorem valuesAt_cons (facet : Facet) (name : String) (e : Entry) (entries : List Entry) :
    valuesAt facet name (e :: entries) =
      (if e.1 = facet ∧ e.2.1 = name then [e.2.2] else []) ++ valuesAt facet name entries := by
  by_cases here : e.1 = facet ∧ e.2.1 = name <;> simp [valuesAt, here]

theorem valuesAt_append (facet : Facet) (name : String) (before after : List Entry) :
    valuesAt facet name (before ++ after) =
      valuesAt facet name before ++ valuesAt facet name after := by
  simp [valuesAt]

/-! ## One insertion -/

theorem get?_insert (r : Request) (e : Entry) (facet : Facet) (name : String) :
    Dict.get? ((r.insert e.1 e.2.1 e.2.2).facets facet) name =
      if e.1 = facet ∧ e.2.1 = name then some ((r.lookup facet name).values ++ [e.2.2])
      else Dict.get? (r.facets facet) name := by
  obtain ⟨f, n, value⟩ := e
  by_cases inside : f = facet
  · subst inside
    by_cases here : n = name
    · subst here
      simp [insert, lookup]
    · simp [insert, here, Dict.get?_insert_of_ne _ _ (Ne.symm here)]
  · simp [insert, inside, Ne.symm inside]

theorem facets_insert_of_ne (r : Request) {e : Entry} (other : e.1 ≠ facet) :
    (r.insert e.1 e.2.1 e.2.2).facets facet = r.facets facet :=
  if_neg (Ne.symm other)

/-! ## Histories -/

theorem insertAll_cons (r : Request) (e : Entry) (entries : List Entry) :
    r.insertAll (e :: entries) = (r.insert e.1 e.2.1 e.2.2).insertAll entries := rfl

theorem get?_insertAll (r : Request) (entries : List Entry) (facet : Facet) (name : String) :
    Dict.get? ((r.insertAll entries).facets facet) name =
      if valuesAt facet name entries = [] then Dict.get? (r.facets facet) name
      else some ((r.lookup facet name).values ++ valuesAt facet name entries) := by
  induction entries generalizing r with
  | nil => rfl
  | cons e entries ih =>
      rw [insertAll_cons, ih, valuesAt_cons, lookup, get?_insert]
      by_cases here : e.1 = facet ∧ e.2.1 = name
      · by_cases last : valuesAt facet name entries = [] <;> simp [here, last]
      · simp [here, lookup]

/-- A facet is made by its own insertions. -/
theorem facets_insertAll (r : Request) (entries : List Entry) (facet : Facet) :
    (r.insertAll entries).facets facet =
      (r.insertAll (entries.filter fun e => e.1 = facet)).facets facet := by
  -- By induction over requests with the same facet: the insertions that are left out change others.
  suffices general : ∀ r' : Request, r.facets facet = r'.facets facet →
      (r.insertAll entries).facets facet =
        (r'.insertAll (entries.filter fun e => e.1 = facet)).facets facet from general r rfl
  induction entries generalizing r with
  | nil => exact fun _ same => same
  | cons e entries ih =>
      intro r' same
      by_cases inside : e.1 = facet
      · rw [List.filter_cons_of_pos (by simpa using inside), insertAll_cons, insertAll_cons]
        refine ih _ _ ?_
        simp only [insert, ← inside] at same ⊢
        rw [same]
      · rw [List.filter_cons_of_neg (by simpa using inside), insertAll_cons]
        exact ih _ _ ((facets_insert_of_ne r inside).trans same)

theorem get?_insertAll_empty (entries : List Entry) (facet : Facet) (name : String) :
    Dict.get? ((empty.insertAll entries).facets facet) name =
      if valuesAt facet name entries = [] then none else some (valuesAt facet name entries) :=
  get?_insertAll empty entries facet name

theorem lookup_insertAll (entries : List Entry) (facet : Facet) (name : String) :
    (empty.insertAll entries).lookup facet name = ⟨name, valuesAt facet name entries⟩ := by
  rw [lookup, get?_insertAll_empty]
  split
  · rename_i none
    rw [none]
    rfl
  · rfl

/-! ## Contexts -/

/-- The context of a history and a body. -/
def contextOf (entries : List Entry) (body : Body) : Context :=
  ((empty.insertAll entries).withBody body).toContext

/-- Both views show the history, of which header names alone are looked up in another way. -/
structure Answers (ctx : Context) (entries : List Entry) : Prop where
  single : ∀ facet name, facet ≠ .header →
    ctx.single facet name = ⟨name, valuesAt facet name entries⟩
  object : ∀ facet name, Dict.get? (ctx.object facet) name =
    if valuesAt facet name entries = [] then none else some (valuesAt facet name entries)
  param : ∀ name, ctx.param name =
    ([ctx.path name, ctx.query name, ctx.form name].find? fun raw => !raw.isMissing).getD
      (.missing name)

/-- The contexts differ at most under the facet and the name of the insertion. -/
structure DifferAt (e : Entry) (ctx ctx' : Context) : Prop where
  single : ∀ facet name, facet ≠ .header → ¬ (e.1 = facet ∧ e.2.1 = name) →
    ctx.single facet name = ctx'.single facet name
  entry : ∀ facet name, ¬ (e.1 = facet ∧ e.2.1 = name) →
    Dict.get? (ctx.object facet) name = Dict.get? (ctx'.object facet) name
  object : ∀ facet, e.1 ≠ facet → ctx.object facet = ctx'.object facet

theorem single_contextOf (entries : List Entry) (body : Body) (name : String)
    (other : facet ≠ .header) :
    (contextOf entries body).single facet name = ⟨name, valuesAt facet name entries⟩ := by
  rw [← lookup_insertAll]
  cases facet <;> first | rfl | exact absurd rfl other

theorem object_contextOf (entries : List Entry) (body : Body) (facet : Facet) :
    (contextOf entries body).object facet = (empty.insertAll entries).facets facet := by
  cases facet <;> rfl

theorem differAt_contextOf (before after : List Entry) (e : Entry) (body : Body) :
    DifferAt e (contextOf (before ++ e :: after) body) (contextOf (before ++ after) body) := by
  have values {facet : Facet} {name : String} (apart : ¬ (e.1 = facet ∧ e.2.1 = name)) :
      valuesAt facet name (before ++ e :: after) = valuesAt facet name (before ++ after) := by
    rw [valuesAt_append, valuesAt_cons, if_neg apart, List.nil_append, ← valuesAt_append]
  refine ⟨fun facet name other apart => ?_, fun facet name apart => ?_, fun facet apart => ?_⟩
  · rw [single_contextOf _ _ _ other, single_contextOf _ _ _ other, values apart]
  · rw [object_contextOf, object_contextOf, get?_insertAll_empty, get?_insertAll_empty,
      values apart]
  · have left : (before ++ e :: after).filter (fun e => e.1 = facet) =
        (before ++ after).filter fun e => e.1 = facet := by
      simp [apart]
    rw [object_contextOf, object_contextOf, facets_insertAll, left, ← facets_insertAll]

/-- A context answers what was inserted, and an insertion changes nothing under other facets and
names, wherever it stands in the history. -/
theorem answers_contextOf (entries : List Entry) (body : Body) :
    Answers (contextOf entries body) entries ∧
      ∀ before e after, entries = before ++ e :: after →
        DifferAt e (contextOf entries body) (contextOf (before ++ after) body) := by
  refine ⟨⟨fun facet name other => ?_, fun facet name => ?_, fun name => ?_⟩, ?_⟩
  · exact single_contextOf entries body name other
  · rw [object_contextOf]
    exact get?_insertAll_empty entries facet name
  · exact RawValue.firstPresent_eq name _
  · rintro before e after rfl
    exact differAt_contextOf before after e body

-- The query is asked before the form, and the values of the two are not mixed.
example :
    (contextOf [(.form, "id", "1"), (.query, "id", "2"), (.query, "id", "3")] .empty).param "id" =
      ⟨"id", ["2", "3"]⟩ := by
  decide +kernel

end Request
end RouteAdapter
