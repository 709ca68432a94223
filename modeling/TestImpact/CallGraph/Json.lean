import TestImpact.CallGraph.Focus
import TestImpact.Text.Printable

/-
  A call graph as a JSON file: an object that takes every callee shown to the
  array of its callers, both ascending, indented by two blanks a level and
  written in ASCII. Characters outside ASCII are escaped by their UTF-16
  units, and so are control characters without an escape of their own.
-/

namespace TestImpact.CallGraph

/-- The escape of a UTF-16 unit. -/
def jsonUnit (n : Nat) : List Char := '\\' :: 'u' :: Text.hexDigits 4 n

def jsonChar (c : Char) : List Char :=
  if c = '"' then ['\\', '"']
  else if c = '\\' then ['\\', '\\']
  else if c = '\n' then ['\\', 'n']
  else if c = '\r' then ['\\', 'r']
  else if c = '\t' then ['\\', 't']
  else if c = '\x0c' then ['\\', 'f']
  else if c = '\x08' then ['\\', 'b']
  else if 32 ≤ c.toNat && c.toNat < 127 then [c]
  else if c.toNat < 0x10000 then jsonUnit c.toNat
  else
    let n := c.toNat - 0x10000
    jsonUnit (0xd800 + n / 0x400) ++ jsonUnit (0xdc00 + n % 0x400)

def jsonString (s : String) : String :=
  "\"" ++ String.ofList (s.toList.flatMap jsonChar) ++ "\""

/-- Runs of edges with the same callee: each callee with its callers. -/
def groupByCallee : List CallEdge → List (String × List String)
  | [] => []
  | e :: rest =>
    match groupByCallee rest with
    | [] => [(e.callee, [e.caller])]
    | (callee, callers) :: groups =>
      if e.callee = callee then (callee, e.caller :: callers) :: groups
      else (e.callee, [e.caller]) :: (callee, callers) :: groups

def jsonMember (entry : String × List String) : String :=
  "  " ++ jsonString entry.1 ++ ": [\n"
    ++ Text.joined ",\n" (entry.2.map fun caller => "    " ++ jsonString caller) ++ "\n  ]"

def jsonObject : List (String × List String) → String
  | [] => "\x7b\x7d"
  | entries => "\x7b\n" ++ Text.joined ",\n" (entries.map jsonMember) ++ "\n\x7d"

def json (g : CallGraph) (focus : String) : String :=
  jsonObject (groupByCallee (g.shownEdges focus))

end TestImpact.CallGraph
