import Umundo.Service.Consultation
import Umundo.Util.Regex

namespace Umundo
namespace Service

open Foundation Std Util

/-!
# The part of a property that is compared

A rule compares the first group of its pattern if groups were reported, and the whole
match otherwise.  The library reports all groups up to the last one that took part in the
match.  So there may be a report of the first group although it took no part: it begins at
-1, which as an unsigned number is behind every text, and its extraction throws.

Apart from that, what is extracted is a part of the property.
-/

namespace RegexMatch

/-- What is known of a match when the library is done. -/
def ofRegex (regex : Regex) : RegexMatch := ⟨regex.matchIndex, regex.subMatchIndex⟩

/-- The pairs that a positive code announces. -/
def ofResult (result : PcreResult) : RegexMatch where
  whole := result.pair 0
  subMatches := (List.range (result.rc.toNat - 1)).map fun index => result.pair (index + 1)

/-- The group that is compared. -/
def selectedGroup (result : PcreResult) : Nat := if 1 < result.rc then 1 else 0

theorem span_ofResult (result : PcreResult) : (ofResult result).span = result.pair (selectedGroup result) := by
  rw [span, ofResult, selectedGroup]
  cases groups : result.rc.toNat - 1 with
  | zero =>
      rw [if_neg (by omega)]
      rfl
  | succ count =>
      rw [if_pos (by omega), List.range_succ_eq_map]
      rfl

/-- The part begins in the text if the group took part in the match. -/
theorem inside_ofResult_iff {result : PcreResult} {text : Bytes} (contract : result.Contract text.length)
    (matched : 0 < result.rc) :
    (ofResult result).Inside text <-> result.start (selectedGroup result) ≠ -1 := by
  have reported : (selectedGroup result : Int) < result.rc := by
    rw [selectedGroup]
    split <;> omega
  rw [Inside, span_ofResult, PcreResult.pair]
  rcases contract.group _ reported with inside | absent
  · omega
  · omega

end RegexMatch

/-! ## Filters that throw -/

section

variable {Number : Type} [LinearOrder Number] (environment : Environment Number)

/-- The pattern matches, and what is to be compared is not in the property. -/
def Outside (pattern actual : Bytes) : Prop :=
  Exists fun found : RegexMatch => environment.found pattern actual = some found ∧ ¬ found.Inside actual

theorem evaluate_eq_none_iff (rule : Rule) (actual : Bytes) :
    evaluate environment rule actual = none <-> Outside environment rule.pattern actual := by
  rw [evaluate_eq, Outside]
  cases environment.found rule.pattern actual with
  | none => simp
  | some found =>
      dsimp only
      rw [Option.map_eq_none_iff, ← Option.not_isSome_iff_eq_none, found.isSome_selected_iff]
      simp

theorem ServiceFilter.checkRules_eq_none_iff (filter : ServiceFilter) (rules : List (Bytes × Bytes))
    (desc : ServiceDescription) :
    (filter.checkRules environment rules desc).1 = none <->
      Exists fun key => key ∈ filter.consulted environment desc rules ∧
        Outside environment (filter.pattern.getD key []) (desc.property key) := by
  induction rules generalizing desc with
  | nil => simp [checkRules, consulted]
  | cons entry rest ih =>
      have read : desc.getProperty entry.1 = (desc.property entry.1, desc.looked [entry.1]) := rfl
      have first : evaluate environment (filter.rule entry.1 entry.2) (desc.property entry.1) = none <->
          Outside environment (filter.pattern.getD entry.1 []) (desc.property entry.1) :=
        evaluate_eq_none_iff environment _ _
      rw [checkRules, consulted, read]
      dsimp only
      cases outcome : evaluate environment (filter.rule entry.1 entry.2) (desc.property entry.1) with
      | none => exact iff_of_true rfl ⟨entry.1, List.mem_cons_self, first.mp outcome⟩
      | some holds =>
          rw [outcome] at first
          have inside : ¬ Outside environment (filter.pattern.getD entry.1 []) (desc.property entry.1) :=
            fun outside => by cases first.mpr outside
          cases holds with
          | false => simp [inside]
          | true =>
              dsimp only
              rw [ih, consulted_looked, if_pos rfl]
              simp only [desc.property_looked, List.mem_cons, or_and_right, exists_or, exists_eq_left,
                inside, false_or]

/-- A filter throws exactly if one of the rules it gets to is about a part that is not there. -/
theorem ServiceFilter.matches_eq_none_iff (filter : ServiceFilter) (desc : ServiceDescription) :
    (filter.matches environment desc).1 = none <->
      Exists fun key => key ∈ filter.consults environment desc ∧
        Outside environment (filter.pattern.getD key []) (desc.property key) := by
  rw [ServiceFilter.matches, consults]
  split
  next => simp
  next => exact filter.checkRules_eq_none_iff environment _ desc

end

/-! ## The library as the environment of filters -/

section

variable {Number : Type} (pcre : Pcre) (toNumber : Bytes -> Number)

/-- Patterns are handed to the library through `Regex`. -/
def Environment.ofPcre : Environment Number where
  compile pattern :=
    let regex := Regex.new pcre pattern
    if regex.hasError then none
    else some fun text =>
      let (matched, regex) := regex.matches text
      if matched then some (.ofRegex regex) else none
  toNumber := toNumber

/-- What the library says about a pattern that compiles. -/
def executed (pattern text : Bytes) : Option PcreResult :=
  match pcre.compile (CString.ofBytes pattern).bytes with
  | .ok exec => some (exec text)
  | .error _ => none

theorem matches_new_eq {pattern : Bytes} {exec : Bytes -> PcreResult}
    (compiles : pcre.compile (CString.ofBytes pattern).bytes = .ok exec) (text : Bytes) :
    ((Regex.new pcre pattern).matches text).1 = decide (0 < (exec text).rc) ∧
      (0 < (exec text).rc ->
        RegexMatch.ofRegex ((Regex.new pcre pattern).matches text).2 = .ofResult (exec text)) := by
  rw [Regex.new, compiles, Regex.matches]
  dsimp only
  split
  next negative => exact ⟨(decide_eq_false (by omega)).symm, fun positive => by omega⟩
  next =>
    split
    next zero => exact ⟨(decide_eq_false (by omega)).symm, fun positive => by omega⟩
    next => exact ⟨(decide_eq_true (by omega)).symm, fun _ => rfl⟩

theorem found_ofPcre (pattern text : Bytes) :
    (Environment.ofPcre pcre toNumber).found pattern text =
      (executed pcre pattern text).bind fun result =>
        if 0 < result.rc then some (.ofResult result) else none := by
  rw [Environment.found, Environment.ofPcre, executed]
  dsimp only
  cases compiled : pcre.compile (CString.ofBytes pattern).bytes with
  | error text =>
      rw [Regex.new, compiled]
      dsimp only
      split
      next => rfl
      next => rfl
  | ok exec =>
      have fine : (Regex.new pcre pattern).hasError = false := by
        rw [Regex.new, compiled]
        rfl
      obtain ⟨matched, pairs⟩ := matches_new_eq pcre compiled text
      rw [fine, if_neg Bool.false_ne_true, Option.bind_some, Option.bind_some]
      dsimp only
      rw [matched]
      simp only [decide_eq_true_eq]
      split
      next positive => rw [pairs positive]
      next => rfl

/-- The group that a rule compares takes part in every match there is. -/
def Participates (pattern text : Bytes) : Prop :=
  forall result : PcreResult, executed pcre pattern text = some result -> 0 < result.rc ->
    result.start (RegexMatch.selectedGroup result) ≠ -1

theorem outside_ofPcre_iff (contract : pcre.Contract) (pattern text : Bytes) :
    Outside (Environment.ofPcre pcre toNumber) pattern text <-> ¬ Participates pcre pattern text := by
  rw [Outside, Participates, found_ofPcre]
  cases compiled : pcre.compile (CString.ofBytes pattern).bytes with
  | error message => simp [executed, compiled]
  | ok exec =>
      have promised := contract _ exec compiled text
      have result : executed pcre pattern text = some (exec text) := by rw [executed, compiled]
      rw [result, Option.bind_some]
      by_cases matched : 0 < (exec text).rc
      · simp [matched, RegexMatch.inside_ofResult_iff promised matched]
      · simp [matched]

end

section

variable {Number : Type} [LinearOrder Number]

/-- With a library that keeps its contract, the part that is compared begins in the text
exactly if its group took part in the match.  A filter throws exactly if a rule that it
gets to compares a group that took no part. -/
theorem selection_inside_iff {pcre : Pcre} (contract : pcre.Contract) (toNumber : Bytes -> Number) :
    (forall (pattern text : Bytes) (exec : Bytes -> PcreResult),
      pcre.compile (CString.ofBytes pattern).bytes = .ok exec ->
      ((Regex.new pcre pattern).matches text).1 = true ->
      let span := (RegexMatch.ofRegex ((Regex.new pcre pattern).matches text).2).span
      (0 ≤ span.1 ∧ span.1 ≤ text.length <->
        (exec text).start (RegexMatch.selectedGroup (exec text)) ≠ -1)) ∧
      (forall (filter : ServiceFilter) (desc : ServiceDescription),
        let environment := Environment.ofPcre pcre toNumber
        ((filter.matches environment desc).1 ≠ none <->
          forall key, key ∈ filter.consults environment desc ->
            Participates pcre (filter.pattern.getD key []) (desc.property key))) := by
  refine ⟨fun pattern text exec compiles holds => ?_, fun filter desc => ?_⟩
  · obtain ⟨matched, pairs⟩ := matches_new_eq pcre compiles text
    have positive : 0 < (exec text).rc := of_decide_eq_true (matched.symm.trans holds)
    rw [pairs positive]
    exact RegexMatch.inside_ofResult_iff (contract _ exec compiles text) positive
  · intro environment
    rw [ne_eq, ServiceFilter.matches_eq_none_iff]
    simp only [environment, outside_ofPcre_iff pcre toNumber contract, not_exists, not_and, not_not]

end

/-! ## A pattern with a choice -/

/-- What the library says about `(a)|(b)` and `a`: the second group is not reported. -/
def firstChosen : PcreResult := ⟨2, fun index => [0, 1, 0, 1].getD index 0⟩

/-- What it says about `b`: the first group took no part. -/
def secondChosen : PcreResult := ⟨3, fun index => [0, 1, -1, -1, 0, 1].getD index 0⟩

def choice : Pcre where
  compile pattern :=
    if pattern = literal "(a)|(b)" then
      .ok fun text =>
        if text = literal "a" then firstChosen
        else if text = literal "b" then secondChosen
        else ⟨-1, fun _ => 0⟩
    else .error (literal "not this pattern")

theorem contract_firstChosen : firstChosen.Contract 1 where
  whole _ := by decide
  group group reported := by
    have reported : (group : Int) < 2 := reported
    obtain rfl | rfl : group = 0 ∨ group = 1 := by omega
    · decide
    · decide

theorem contract_secondChosen : secondChosen.Contract 1 where
  whole _ := by decide
  group group reported := by
    have reported : (group : Int) < 3 := reported
    obtain rfl | rfl | rfl : group = 0 ∨ group = 1 ∨ group = 2 := by omega
    · decide
    · decide
    · decide

theorem contract_choice : choice.Contract := by
  intro pattern exec compiles text
  rw [choice] at compiles
  dsimp only at compiles
  split at compiles
  next =>
    cases compiles
    dsimp only
    split
    next first =>
      rw [first, show (literal "a").length = 1 by decide +kernel]
      exact contract_firstChosen
    next =>
      split
      next second =>
        rw [second, show (literal "b").length = 1 by decide +kernel]
        exact contract_secondChosen
      next =>
        have unmatched {group : Nat} : ¬ (group : Int) < -1 := by omega
        exact ⟨fun matched => absurd matched (by decide), fun _ reported => absurd reported unmatched⟩
  next => cases compiles

theorem selection_inside_iff_first :
    let regex := Regex.new choice (literal "(a)|(b)")
    let span := (RegexMatch.ofRegex (regex.matches (literal "a")).2).span
    choice.Contract ∧ (regex.matches (literal "a")).1 = true ∧
      0 ≤ span.1 ∧ span.1 ≤ (literal "a").length := by
  intro regex span
  have compiles : choice.compile (CString.ofBytes (literal "(a)|(b)")).bytes = .ok fun text =>
      if text = literal "a" then firstChosen
      else if text = literal "b" then secondChosen
      else ⟨-1, fun _ => 0⟩ := by
    rw [show (CString.ofBytes (literal "(a)|(b)")).bytes = literal "(a)|(b)" by decide +kernel]
    exact if_pos rfl
  have matched : (regex.matches (literal "a")).1 = true := by decide +kernel
  refine ⟨contract_choice, matched, ?_⟩
  have inside := (selection_inside_iff contract_choice List.length).1 (literal "(a)|(b)") (literal "a") _
    compiles matched
  exact inside.mpr (by decide +kernel)

/-- The pattern `(a)|(b)` matches `b`, but its first group begins at -1. -/
theorem selection_outside :
    let regex := Regex.new choice (literal "(a)|(b)")
    let span := (RegexMatch.ofRegex (regex.matches (literal "b")).2).span
    choice.Contract ∧ (regex.matches (literal "b")).1 = true ∧ span = (-1, 0) ∧
      ((exampleFilter "(a)|(b)" "b" Operator.equals.code).matches
        (Environment.ofPcre choice List.length) (exampleDescription "b")).1 = none :=
  ⟨contract_choice, by decide +kernel, by decide +kernel, by decide +kernel⟩

end Service
end Umundo
