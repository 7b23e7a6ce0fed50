import RouteAdapter.Emission.Report

/-!
# Terminal output

What a command prints on its two streams. Words that stand out are bold and colored if colors are
chosen.
-/

namespace RouteAdapter

inductive ColorChoice
  | always
  | never
  | auto
  deriving DecidableEq

def ColorChoice.name : ColorChoice → String
  | always => "Always"
  | never => "Never"
  | auto => "Auto"

/-- The environment can forbid colors; otherwise the flag decides. -/
def ColorChoice.resolve (forbidden : Bool) (flag : Option String) : ColorChoice :=
  if forbidden then never
  else
    match flag with
    | some "always" => always
    | some "never" => never
    | _ => auto

inductive Color
  | red
  | green
  | yellow
  | cyan
  deriving DecidableEq

def Color.code : Color → String
  | red => "31"
  | green => "32"
  | yellow => "33"
  | cyan => "36"

structure Printed where
  out : String
  err : String
  deriving DecidableEq

namespace Printed

def escape (code : String) : String :=
  "\x1b[" ++ code ++ "m"

def paint (colored : Bool) (color : Color) (text : String) : String :=
  if colored then escape "0" ++ escape "1" ++ escape color.code ++ text ++ escape "0" else text

def padStart (width : Nat) (text : String) : String :=
  String.ofList (List.replicate (width - text.length) ' ') ++ text

def empty : Printed :=
  ⟨"", ""⟩

def ofOut (lines : List String) : Printed :=
  ⟨String.join (lines.map (· ++ "\n")), ""⟩

def ofErr (lines : List String) : Printed :=
  ⟨"", String.join (lines.map (· ++ "\n"))⟩

def append (p q : Printed) : Printed :=
  ⟨p.out ++ q.out, p.err ++ q.err⟩

instance : Append Printed :=
  ⟨append⟩

def statusLine (colored : Bool) (word message : String) : String :=
  paint colored .green (padStart 10 word ++ " ") ++ message

def warningLine (colored : Bool) (message : String) : String :=
  paint colored .yellow "warning" ++ ": " ++ message

def errorLine (colored : Bool) (message : String) : String :=
  paint colored .red "error" ++ ": " ++ message

def reportLines (colored : Bool) (r : Report) : List String :=
  (r.classFailures.map fun f => errorLine colored (f.controller ++ ": " ++ f.error.message))
    ++ (r.methodFailures.flatMap fun f => f.errors.map fun e =>
      errorLine colored
        (paint colored .cyan (f.controller ++ "." ++ f.method) ++ ": " ++ e.message))
    ++ [paint colored .red (toString r.errorCount ++ " error(s)")]

end Printed
end RouteAdapter
