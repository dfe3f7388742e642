import Umundo.Foundation.CString

namespace Umundo
namespace Util

open Foundation

/-!
# Regular expressions

Patterns are compiled and executed by a library, which is a parameter here.  It returns a
code and a vector with the beginning and the end of the match and of its groups.  What
`Regex` makes of them are pairs of an offset and a length, for the match and for the groups
that were reported.

The contract is the one of the library: a positive code is the number of pairs that were
set, and a group that took no part in the match begins and ends at -1.
-/

/-- What the library says about a text.  Only the first pairs of the vector are read. -/
structure PcreResult where
  rc : Int
  ovector : Nat -> Int

namespace PcreResult

/-- The beginning of a group.  The whole match is group 0. -/
def start (result : PcreResult) (group : Nat) : Int := result.ovector (2 * group)

def stop (result : PcreResult) (group : Nat) : Int := result.ovector (2 * group + 1)

/-- A group as an offset and a length. -/
def pair (result : PcreResult) (group : Nat) : Int × Int :=
  (result.start group, result.stop group - result.start group)

/-- What the library promises for a text of some length. -/
structure Contract (result : PcreResult) (length : Nat) : Prop where
  whole : 0 < result.rc -> result.start 0 ≤ result.stop 0 ∧ result.stop 0 ≤ length
  group : forall group : Nat, (group : Int) < result.rc ->
    0 ≤ result.start group ∧ result.start group ≤ result.stop group ∧ result.stop group ≤ length ∨
      result.start group = -1 ∧ result.stop group = -1

end PcreResult

/-- The library: a pattern is compiled, or there is a message about it. -/
structure Pcre where
  compile : Bytes -> Except Bytes (Bytes -> PcreResult)

/-- Everything the library returns is as promised. -/
def Pcre.Contract (pcre : Pcre) : Prop :=
  forall (pattern : Bytes) (exec : Bytes -> PcreResult), pcre.compile pattern = .ok exec ->
    forall text : Bytes, (exec text).Contract text.length

structure Regex where
  re : Option (Bytes -> PcreResult)
  error : Bytes
  matchIndex : Int × Int
  subMatchIndex : List (Int × Int)

namespace Regex

/-- What a literal in the source stands for. -/
def message (text : String) : Bytes := text.toUTF8.toList

/-- The codes for errors that are told apart. -/
def errorText (rc : Int) : Bytes :=
  -- `PCRE_ERROR_NOMATCH` is -1, and no error
  if rc = -2 then message "PCRE_ERROR_NULL"
  else if rc = -3 then message "PCRE_ERROR_BADOPTION"
  else if rc = -4 then message "PCRE_ERROR_BADMAGIC"
  else if rc = -5 then message "PCRE_ERROR_UNKNOWN_NODE"
  else if rc = -6 then message "PCRE_ERROR_NOMEMORY"
  else if rc = -7 then message "PCRE_ERROR_NOSUBSTRING"
  else []

/-- `Regex(pattern)`.  The library reads the pattern up to its terminator. -/
def new (pcre : Pcre) (pattern : Bytes) : Regex :=
  match pcre.compile (CString.ofBytes pattern).bytes with
  | .ok exec => ⟨some exec, [], (0, 0), []⟩
  | .error text => ⟨none, text, (0, 0), []⟩

def hasError (regex : Regex) : Bool := 0 < regex.error.length

end Regex

def Regex.matches (regex : Regex) (text : Bytes) : Bool × Regex :=
  let cleared : Regex := ⟨regex.re, [], (0, 0), []⟩
  match regex.re with
  | none => (false, cleared)
  | some exec =>
      let result := exec text
      if result.rc < 0 then (false, { cleared with error := errorText result.rc })
      else if result.rc = 0 then (false, { cleared with error := message "Output vector too small" })
      else
        (true, { cleared with
          matchIndex := result.pair 0
          subMatchIndex := (List.range (result.rc.toNat - 1)).map fun index => result.pair (index + 1) })

end Util
end Umundo
