import RouteAdapter.Cli.Command
import RouteAdapter.Proofs.Binding.Dispatch
import RouteAdapter.Proofs.Descriptor.Types
import RouteAdapter.Proofs.Files.Tree

/-!
# The commands agree

`build` and `check` compile the same modules or fail with the same report, and a build that fails
leaves all files as they are. What is written can be inspected.

* `Cli.compile_eq`: what both commands compile;
* `Cli.writeAll_ok`: a list of files that are written;
* `Cli.ordinary_fileName`: the names of written files;
* `Cli.inspect_held`: a file that holds a module is listed;
* `Cli.build_agrees`: the three commands on one descriptor file.
-/

namespace RouteAdapter

/-! ## Compiling -/

theorem Config.ofFile_valid {files : Files} {path : String} {config : Config}
    (read : ofFile files path = .ok config) : config.validate = .ok () := by
  obtain ⟨text, -, parsed⟩ := bind_eq_ok.mp read
  obtain ⟨c, -, rest⟩ := bind_eq_ok.mp parsed
  obtain ⟨⟨⟩, valid, whole⟩ := bind_eq_ok.mp rest
  cases whole
  exact mapError_eq_ok.mp valid

theorem Config.suffix_of_valid {config : Config} (valid : config.validate = .ok ()) :
    ∀ c ∈ config.classSuffix.toList, isSuffixChar c := by
  unfold validate at valid
  split at valid
  · cases valid
  · split at valid
    · cases valid
    · next all => simpa using all

namespace Cli

variable {t t' : FileTree} {explicit : Option String} {outDir descriptors : String}
  {config : Config} {set : ControllerSet}

theorem loadConfig_valid {files : Files}
    (loaded : loadConfig files explicit descriptors = .ok config) : config.validate = .ok () := by
  have recorded {c : Config} (valid : c.validate = .ok ()) :
      { c with sourceFile := c.sourceFile <|> some descriptors }.validate = .ok () := valid
  unfold loadConfig at loaded
  split at loaded
  · obtain ⟨c, found, whole⟩ := bind_eq_ok.mp loaded
    cases whole
    exact recorded (Config.ofFile_valid (mapError_eq_ok.mp found))
  · cases loaded
    exact recorded (by decide +kernel)

theorem compile_eq {files : Files} (loaded : loadConfig files explicit descriptors = .ok config)
    (described : ControllerSet.ofFile files descriptors = .ok set) :
    compile files explicit descriptors =
      ((Compiler.mk config config.schema).build set.controllers).mapError .build := by
  have configured : Compiler.ofConfig config = .ok ⟨config, config.schema⟩ := by
    rw [Compiler.ofConfig, loadConfig_valid loaded]
    rfl
  rw [compile, loaded, described]
  change ((Compiler.ofConfig config).mapError _ >>= _) = _
  rw [configured]
  rfl

/-! ## Written files -/

/-- The files are at these locations, and nothing else has changed. Of two files at one location,
only the last one is there. -/
structure Wrote (t t' : FileTree) (files : List (String × Bytes)) (locations : List Location) :
    Prop where
  located : List.Forall₂ (fun f l => t'.locate f.1 = .ok l) files locations
  held : (locations.map Location.text).Nodup → ∀ f ∈ files, t'.read f.1 = .ok f.2
  others : ∀ l, l.text ∉ locations.map Location.text → t'.node? l = t.node? l
  keeps : t.Keeps t'

theorem writeAll_ok {t t' : FileTree} {files : List (String × Bytes)}
    (wrote : writeAll t files = (.ok (), t')) :
    ∃ locations, Wrote t t' files locations := by
  induction files generalizing t with
  | nil =>
      cases wrote
      exact ⟨[], .nil, fun _ _ none => absurd none List.not_mem_nil, fun _ _ => rfl, .refl _⟩
  | cons f files ih =>
      obtain ⟨path, bytes⟩ := f
      rw [writeAll] at wrote
      split at wrote
      · next first =>
          obtain ⟨l, located, within, rfl, keeps⟩ := FileTree.write_ok first
          obtain ⟨locations, later⟩ := ih wrote
          have found := (keeps.trans later.keeps).locate located
          refine ⟨l :: locations, .cons found later.located, fun distinct => ?_,
            fun l' other => ?_, keeps.trans later.keeps⟩
          · obtain ⟨fresh, distinct⟩ := List.nodup_cons.mp distinct
            refine List.forall_mem_cons.mpr ⟨FileTree.read_ok found ?_, later.held distinct⟩
            rw [later.others l fresh, FileTree.node?_put within]
          · obtain ⟨differs, other⟩ := not_or.mp (mt List.mem_cons.mpr other)
            rw [later.others l' other, FileTree.node?_put_of_ne differs]
      · cases wrote

/-! ## Module files -/

def fileName (m : Module) : String :=
  m.metadata.name ++ "." ++ moduleExtension

theorem ordinary_fileName {c : Controller} {m : Module} (named : Controller.WellNamed c.name)
    (valid : config.validate = .ok ()) (name : m.metadata.name = c.className config.classSuffix) :
    Path.Ordinary (fileName m).toList := by
  have letters : (fileName m).toList =
      c.name.toList ++ config.classSuffix.toList ++ ['.', 'r', 'g', 'b'] := by
    rw [fileName, name, Controller.className]
    simp [moduleExtension]
  have other (l : List Char) (short : l.length < 4) : (fileName m).toList ≠ l := by
    intro same
    have length := congrArg List.length (letters.symm.trans same)
    simp only [List.length_append, List.length_cons] at length
    omega
  refine ⟨?_, ?_, ?_⟩
  · rw [letters, List.mem_append, List.mem_append]
    rintro ((inName | inSuffix) | inExtension)
    · exact absurd (named.2.1 _ inName) (by decide)
    · exact absurd (Config.suffix_of_valid valid _ inSuffix) (by decide)
    · exact absurd inExtension (by decide)
  · simp [Path.isVacuous, other]
  · simp [Path.isUp, Path.upName, other]

end Cli

/-! ## Inspecting -/

theorem Function.exists_listing {f : Function} {m : Module} (verified : f.verify m = .ok ()) :
    ∃ text, f.listing m = .ok text := by
  obtain ⟨body, decoded, -⟩ := Function.verify_ok.mp verified
  refine ⟨Listing.bodyText m body, ?_⟩
  rw [Function.listing, decoded]
  rfl

theorem Module.exists_functionListings {m : Module} {functions : List Function} (id : Nat)
    (verified : ∀ f ∈ functions, f.verify m = .ok ()) :
    ∃ text, m.functionListings id functions = .ok text := by
  induction functions generalizing id with
  | nil => exact ⟨"", rfl⟩
  | cons f functions ih =>
      obtain ⟨first, rest⟩ := List.forall_mem_cons.mp verified
      obtain ⟨body, listed⟩ := Function.exists_listing first
      obtain ⟨others, later⟩ := ih (id + 1) rest
      exact ⟨_, bind_eq_ok.mpr ⟨body, listed, bind_eq_ok.mpr ⟨others, later, rfl⟩⟩⟩

theorem Module.exists_listing {m : Module} (verified : m.verify = .ok ()) :
    ∃ text, m.listing = .ok text := by
  obtain ⟨functions, listed⟩ := Module.exists_functionListings 0 (Module.verify_ok.mp verified).2
  exact ⟨_, bind_eq_ok.mpr ⟨functions, listed, rfl⟩⟩

theorem Cli.inspect_held {files : Files} {path : String} {m : Module}
    (held : files.read path = .ok m.encode) (decoded : Module.decode m.encode = .ok m)
    (verified : m.verify = .ok ()) : ∃ listing, inspect files path true = .ok listing := by
  obtain ⟨text, listed⟩ := Module.exists_listing verified
  refine ⟨_, bind_eq_ok.mpr ⟨m.encode, mapError_eq_ok.mpr held, bind_eq_ok.mpr ⟨m,
    mapError_eq_ok.mpr decoded, bind_eq_ok.mpr ⟨(), mapError_eq_ok.mpr verified,
    bind_eq_ok.mpr ⟨text, mapError_eq_ok.mpr listed, rfl⟩⟩⟩⟩⟩

/-! ## Modules of a build -/

namespace Compiler

variable {compiler : Compiler} {config : Config} {controllers : List Controller}
  {modules : List Module}

theorem valid_of_isOk (ok : (compiler.compile .empty controllers).1.isOk) :
    ∀ c ∈ controllers, c.Valid := by
  obtain ⟨noClass, -⟩ := Report.isOk_iff.mp ok
  rw [compile] at noClass
  obtain ⟨-, -, refused, -⟩ := Controller.emitAll_separate compiler.schema
    compiler.config.classSuffix .empty controllers
  rw [noClass, List.forall₂_nil_right_iff] at refused
  exact (Controller.accepted_of_refused refused).2

theorem names_of_build (built : compiler.build controllers = .ok modules) :
    modules.map (fun m => m.metadata.name) =
        controllers.map (Controller.className compiler.config.classSuffix) ∧
      (modules.map fun m => m.metadata.name).Nodup := by
  obtain ⟨classes, compiled, distinct, lowered⟩ := build_ok built
  have ofClasses : classes.map EmittedClass.name = modules.map fun m => m.metadata.name := by
    rw [← List.forall₂_eq_eq_eq, List.forall₂_map_left_iff, List.forall₂_map_right_iff]
    refine lowered.imp fun e m lower => ?_
    obtain ⟨t, functions, rfl, -⟩ := EmittedClass.lower_ok lower
    rfl
  have ofControllers : classes.map EmittedClass.name =
      controllers.map (Controller.className compiler.config.classSuffix) := by
    symm
    rw [← List.forall₂_eq_eq_eq, List.forall₂_map_left_iff, List.forall₂_map_right_iff]
    exact compiled.imp fun c e of => of.name.symm
  exact ⟨ofClasses.symm.trans ofControllers, ofClasses ▸ distinct⟩

/-- Modules are verified and read back even if lowering does not check them. -/
theorem stored_of_build (built : (mk config config.schema).build controllers = .ok modules)
    (sized : ∀ m ∈ modules, m.Sized) (described : ∀ c ∈ controllers, c.Described) :
    ∀ m ∈ modules, Module.decode m.encode = .ok m ∧ m.verify = .ok () := by
  intro m member
  obtain ⟨classes, compiled, -, lowered⟩ := build_ok built
  obtain ⟨e, emitted, lower⟩ := exists_of_mem_forall₂_right lowered member
  obtain ⟨c, declared, of⟩ := exists_of_mem_forall₂_right compiled emitted
  have small := sized m member
  refine ⟨EmittedClass.decode_encode_lower lower small fun _ _ => of.types (described c declared),
    ?_⟩
  obtain ⟨t, functions, rfl, -, stand, -⟩ := EmittedClass.lower_ok lower
  exact of.verify config.standard_schema.regular (stand small.addressable)

end Compiler

/-! ## Commands -/

namespace Cli

variable {t after : FileTree} {explicit : Option String} {outDir descriptors : String}
  {config : Config} {set : ControllerSet} {modules : List Module}

structure Stands (after : FileTree) (outDir path : String) (m : Module) : Prop where
  spelled : path = Path.join outDir (fileName m)
  ordinary : Path.Ordinary (fileName m).toList
  child : ∃ dir, after.LeadsTo outDir dir ∧
    after.locate path = .ok (dir ++ [(fileName m).toList])
  held : after.read path = .ok m.encode
  inspected : ∃ listing, inspect after.files path true = .ok listing

theorem name_of_fileName {m m' : Module} (same : fileName m = fileName m') :
    m.metadata.name = m'.metadata.name := by
  have letters := congrArg String.toList same
  simp only [fileName, String.toList_append] at letters
  exact String.toList_inj.mp (List.append_cancel_right (List.append_cancel_right letters))

theorem nodup_text {locations : List Location}
    (located : List.Forall₂ (fun m l => after.locate (Path.join outDir (fileName m)) = .ok l)
      modules locations)
    (ordinary : ∀ m ∈ modules, Path.Ordinary (fileName m).toList)
    (distinct : (modules.map fun m => m.metadata.name).Nodup) :
    (locations.map Location.text).Nodup := by
  induction located with
  | nil => exact List.nodup_nil
  | @cons m l modules locations first later ih =>
      obtain ⟨plain, plains⟩ := List.forall_mem_cons.mp ordinary
      obtain ⟨fresh, apart⟩ := List.nodup_cons.mp distinct
      refine List.nodup_cons.mpr ⟨fun again => fresh ?_, ih plains apart⟩
      obtain ⟨l', member, same⟩ := List.mem_map.mp again
      obtain ⟨m', known, other⟩ := exists_of_mem_forall₂_right later member
      -- Both files are in the one directory that the path leads to.
      obtain ⟨dir, leads, rfl⟩ := FileTree.locate_join plain first
      obtain ⟨dir', leads', rfl⟩ := FileTree.locate_join (plains m' known) other
      obtain rfl := leads.unique leads'
      have names := String.toList_inj.mp (Location.text_concat_injective same)
      exact List.mem_map.mpr ⟨m', known, name_of_fileName names⟩

theorem paths_eq (outDir : String) (modules : List Module) :
    (moduleFiles outDir modules).map Prod.fst =
      modules.map fun m => Path.join outDir (fileName m) :=
  List.map_map

theorem exists_build (compiled : compile t.files explicit descriptors = .ok modules)
    (served : ∀ e, (build t explicit outDir descriptors).1 ≠ .error (.output e)) :
    ∃ made after, build t explicit outDir descriptors =
        (.ok (modules.map fun m => Path.join outDir (fileName m)), after) ∧
      t.Grows made ∧ writeAll made (moduleFiles outDir modules) = (.ok (), after) := by
  have grows := t.makeDirectories_grows outDir
  rw [build, compiled] at served ⊢
  rcases directories : t.makeDirectories outDir with ⟨e | ⟨⟨⟩⟩, made⟩
  · simp only [directories] at served
    exact absurd rfl (served e)
  · rw [directories] at grows
    rcases written : writeAll made (moduleFiles outDir modules) with ⟨e | ⟨⟨⟩⟩, after⟩
    · simp only [directories, written] at served
      exact absurd rfl (served e)
    · refine ⟨made, after, ?_, grows, written⟩
      simp only [written, paths_eq]

/-- The modules have their own files, in their order, and nothing else is new but directories. -/
structure Installed (t after : FileTree) (outDir : String) (paths : List String)
    (modules : List Module) : Prop where
  stand : List.Forall₂ (Stands after outDir) paths modules
  distinct : paths.Nodup
  others : ∀ l, (∀ m ∈ modules, ∀ dir, after.LeadsTo outDir dir →
      l.text ≠ Location.text (dir ++ [(fileName m).toList])) →
    after.node? l = t.node? l ∨ t.node? l = none ∧ after.node? l = some .directory

theorem installed {made : FileTree} (grows : t.Grows made)
    (written : writeAll made (moduleFiles outDir modules) = (.ok (), after))
    (ordinary : ∀ m ∈ modules, Path.Ordinary (fileName m).toList)
    (distinct : (modules.map fun m => m.metadata.name).Nodup)
    (stored : ∀ m ∈ modules, Module.decode m.encode = .ok m ∧ m.verify = .ok ()) :
    Installed t after outDir (modules.map fun m => Path.join outDir (fileName m)) modules := by
  obtain ⟨locations, located, held, others, -⟩ := writeAll_ok written
  rw [moduleFiles, List.forall₂_map_left_iff] at located
  have held := held (nodup_text located ordinary distinct)
  refine ⟨?_, ?_, fun l other => ?_⟩
  · rw [List.forall₂_map_left_iff, List.forall₂_same]
    intro m member
    obtain ⟨l, -, found⟩ := exists_of_mem_forall₂ located member
    obtain ⟨dir, leads, rfl⟩ := FileTree.locate_join (ordinary m member) found
    have bytes := held _ (List.mem_map.mpr ⟨m, member, rfl⟩)
    obtain ⟨decoded, verified⟩ := stored m member
    exact ⟨rfl, ordinary m member, ⟨dir, leads, found⟩, bytes, inspect_held bytes decoded verified⟩
  · refine List.Nodup.map_on (fun m member m' member' same => ?_) distinct.of_map
    have names := Path.join_injective (ordinary m member).noSlash (ordinary m' member').noSlash same
    exact List.inj_on_of_nodup_map distinct member member' (name_of_fileName names)
  · rw [others l]
    · exact grows l
    · intro among
      obtain ⟨l', member, same⟩ := List.mem_map.mp among
      obtain ⟨m, known, found⟩ := exists_of_mem_forall₂_right located member
      obtain ⟨dir, leads, rfl⟩ := FileTree.locate_join (ordinary m known) found
      exact other m known dir leads same.symm

theorem build_agrees (loaded : loadConfig t.files explicit descriptors = .ok config)
    (described : ControllerSet.ofFile t.files descriptors = .ok set)
    (addressable : ∀ c ∈ set.controllers, c.Addressable config.schema config)
    (sized : ∀ modules, (Compiler.mk config config.schema).build set.controllers = .ok modules →
      ∀ m ∈ modules, m.Sized)
    (served : ∀ e, (build t explicit outDir descriptors).1 ≠ .error (.output e)) :
    let compiler : Compiler := ⟨config, config.schema⟩
    let report := (compiler.compile .empty set.controllers).1
    (report.classFailures ≠ [] ∨ report.methodFailures ≠ [] →
      build t explicit outDir descriptors = (.error (.build (.aggregate report)), t) ∧
        check t.files explicit descriptors = .error (.build (.aggregate report))) ∧
    (report.classFailures = [] → report.methodFailures = [] →
      ∃ modules paths after, compiler.build set.controllers = .ok modules ∧
        build t explicit outDir descriptors = (.ok paths, after) ∧
        Installed t after outDir paths modules ∧
        modules.map (fun m => m.metadata.name) =
          set.controllers.map (Controller.className config.classSuffix) ∧
        check t.files explicit descriptors =
          .ok ⟨modules.map fun m => m.metadata.name,
            (modules.flatMap Module.functions).length⟩) := by
  intro compiler report
  have compiled := compile_eq loaded described
  constructor
  · intro fails
    have failed : report.isOk = false := by
      rw [Bool.eq_false_iff, ne_eq, Report.isOk_iff, not_and_or]
      exact fails
    rw [Compiler.build_failed failed] at compiled
    constructor
    · rw [build, compiled]
      rfl
    · rw [check, compiled]
      rfl
  · intro noClass noMethod
    have ok : report.isOk := Report.isOk_iff.mpr ⟨noClass, noMethod⟩
    obtain ⟨modules, built, -⟩ := @Compiler.exists_build compiler set.controllers
      config.standard_schema.regular addressable ok
    rw [built] at compiled
    obtain ⟨made, after, answered, grows, written⟩ := exists_build compiled served
    obtain ⟨names, distinct⟩ := Compiler.names_of_build built
    have stored := Compiler.stored_of_build built (sized modules built)
      (ControllerSet.described_of_ofFile described)
    have ordinary : ∀ m ∈ modules, Path.Ordinary (fileName m).toList := by
      intro m member
      have known : m.metadata.name ∈ modules.map fun m => m.metadata.name :=
        List.mem_map.mpr ⟨m, member, rfl⟩
      rw [names] at known
      obtain ⟨c, declared, name⟩ := List.mem_map.mp known
      exact ordinary_fileName (Compiler.valid_of_isOk ok c declared).1 (loadConfig_valid loaded)
        name.symm
    refine ⟨modules, _, after, built, answered, installed grows written ordinary distinct stored,
      names, ?_⟩
    rw [check, compiled]
    rfl

/-- A descriptor file in the working directory with a configuration beside it. -/
def shopFiles : FileTree :=
  let shop := "[[controller]]\nname='Shop'\n[[controller.method]]\nname='item'\n"
  let cart := "[[controller]]\nname='Cart'"
  ⟨[("app.toml", .file (Bytes.utf8 (shop ++ cart))),
    ("routegen.toml", .file (Bytes.utf8 "verify=false"))]⟩

theorem build_agrees_shop :
    ∃ modules after,
      build shopFiles none "out" "app.toml" =
        (.ok ["out/Shop$Adapter.rgb", "out/Cart$Adapter.rgb"], after) ∧
      Installed shopFiles after "out" ["out/Shop$Adapter.rgb", "out/Cart$Adapter.rgb"] modules ∧
      check shopFiles.files none "app.toml" =
        .ok ⟨modules.map fun m => m.metadata.name, (modules.flatMap Module.functions).length⟩ ∧
      modules.map (fun m => m.metadata.name) = ["Shop$Adapter", "Cart$Adapter"] := by
  let config : Config := ⟨"$Adapter", false, false, some "app.toml", []⟩
  let controllers : List Controller := [⟨"Shop", [⟨"item", [], .void⟩]⟩, ⟨"Cart", []⟩]
  have loaded : (loadConfig shopFiles.files none "app.toml").toOption = some config := by
    decide +kernel
  have described : (ControllerSet.ofFile shopFiles.files "app.toml").toOption =
      some ⟨controllers⟩ := by decide +kernel
  have answer : (build shopFiles none "out" "app.toml").1.toOption =
      some ["out/Shop$Adapter.rgb", "out/Cart$Adapter.rgb"] := by decide +kernel
  rw [toOption_eq_some] at loaded described answer
  have addressable : ∀ c ∈ controllers, c.Addressable config.schema config := by
    intro c declared e compiled
    have few : ∀ c ∈ controllers, (c.methods.flatMap DeclaredMethod.params).length ≤ 1 ∧
        c.methods.length ≤ 1 := by decide
    obtain ⟨params, methods⟩ := few c declared
    refine compiled.addressable ?_ ?_ <;> rw [UInt32.size] <;> omega
  have sized : ∀ modules, (Compiler.mk config config.schema).build controllers = .ok modules →
      ∀ m ∈ modules, m.Sized := by
    have all : ∀ modules ∈ ((Compiler.mk config config.schema).build controllers).toOption,
        ∀ m ∈ modules, m.Sized := by decide +kernel
    exact fun modules built => all modules (toOption_eq_some.mpr built)
  have served : ∀ e, (build shopFiles none "out" "app.toml").1 ≠ .error (.output e) := by
    intro e failed
    rw [answer] at failed
    cases failed
  obtain ⟨-, agree⟩ := build_agrees loaded described addressable sized served
  obtain ⟨modules, paths, after, -, built, installed, names, checked⟩ :=
    agree (by decide +kernel) (by decide +kernel)
  rw [built] at answer
  cases answer
  exact ⟨modules, after, built, installed, checked, names⟩

end Cli
end RouteAdapter
