import RouteAdapter.Value.Basic

/-!
# Request contexts

A context answers single values by name and whole facets. Session, flash and the generic parameter
have defaults: nothing is present, and a parameter is looked up in path, query and form.
`Request` is a context held in memory.
-/

namespace RouteAdapter

namespace RawValue

def firstPresent (name : String) : List RawValue → RawValue
  | [] => missing name
  | r :: rest => if r.isMissing then firstPresent name rest else r

end RawValue

structure Context where
  path : String → RawValue
  query : String → RawValue
  header : String → RawValue
  form : String → RawValue
  session : String → RawValue := RawValue.missing
  flash : String → RawValue := RawValue.missing
  param : String → RawValue :=
    fun name => RawValue.firstPresent name [path name, query name, form name]
  pathMap : ValueMap
  queryMap : ValueMap
  headerMap : ValueMap
  formMap : ValueMap
  sessionMap : ValueMap := []
  flashMap : ValueMap := []
  body : Body

inductive Facet
  | path
  | query
  | header
  | form
  | session
  | flash
  deriving DecidableEq

structure Request where
  facets : Facet → ValueMap
  body : Body

namespace Request

def empty : Request :=
  ⟨fun _ => [], Body.empty⟩

def insert (r : Request) (facet : Facet) (name value : String) : Request :=
  let values := (Dict.get? (r.facets facet) name).getD []
  let updated := Dict.insert name (values ++ [value]) (r.facets facet)
  { r with facets := fun f => if f = facet then updated else r.facets f }

def insertAll (r : Request) (values : List (Facet × String × String)) : Request :=
  values.foldl (fun r (facet, name, value) => r.insert facet name value) r

def withBody (r : Request) (body : Body) : Request :=
  { r with body := body }

def lookup (r : Request) (facet : Facet) (name : String) : RawValue :=
  ⟨name, (Dict.get? (r.facets facet) name).getD []⟩

def sameIgnoringCase (a b : String) : Bool :=
  a.toList.map Char.toLower == b.toList.map Char.toLower

/-- The first header, in the order of names, whose name is the same up to ASCII case. -/
def header (r : Request) (name : String) : RawValue :=
  match (r.facets .header).find? fun entry => sameIgnoringCase entry.1 name with
  | some (_, values) => ⟨name, values⟩
  | none => RawValue.missing name

def toContext (r : Request) : Context where
  path := r.lookup .path
  query := r.lookup .query
  header := r.header
  form := r.lookup .form
  session := r.lookup .session
  flash := r.lookup .flash
  pathMap := r.facets .path
  queryMap := r.facets .query
  headerMap := r.facets .header
  formMap := r.facets .form
  sessionMap := r.facets .session
  flashMap := r.facets .flash
  body := r.body

end Request

/-- The same context with the defaults for session, flash and parameters. -/
def Context.withDefaults (c : Context) : Context where
  path := c.path
  query := c.query
  header := c.header
  form := c.form
  pathMap := c.pathMap
  queryMap := c.queryMap
  headerMap := c.headerMap
  formMap := c.formMap
  body := c.body

end RouteAdapter
