import Mathlib.Data.List.Infix
import Mathlib.Data.List.TakeWhile
import Mathlib.Data.Nat.Digits.Defs
import Mathlib.Tactic

/-!
# Sample paths

`EvaluateSamplePath` reads from the path of a sample how the scan behaves: whether it crashes, how
long it sleeps and whether it finds a threat. The digits behind the word `sleep` are accumulated in
32 bits, and the limit of five seconds is applied to the result. So a number of at least `2 ^ 32`
wraps before it is cut (`evaluateSamplePath_wraps`).

## Main definitions

* `evaluateSamplePath`.
* `sleepDigits`, `decimalValue`: the digits behind the word, and their value.

## Main results

* `evaluateSamplePath_exact`.
-/

namespace MemRpc

/-! ## The rules -/

/-- The bytes of an ASCII text. -/
def asciiBytes (text : List Char) : List UInt8 := text.map Char.toUInt8

def sleepKey : List UInt8 := asciiBytes ['s', 'l', 'e', 'e', 'p']
def crashKey : List UInt8 := asciiBytes ['c', 'r', 'a', 's', 'h']
def virusKey : List UInt8 := asciiBytes ['v', 'i', 'r', 'u', 's']
def eicarKey : List UInt8 := asciiBytes ['e', 'i', 'c', 'a', 'r']

/-- `MAX_SLEEP_MS`. -/
def maxSleepMs : UInt32 := 5000

/-- `std::string::find`: the first place where `key` stands. -/
def findKey (key path : List UInt8) : Option ℕ := path.tails.findIdx? (key.isPrefixOf ·)

/-- `std::isdigit`. -/
def isDigit (c : UInt8) : Bool := decide ('0'.toUInt8 ≤ c) && decide (c ≤ '9'.toUInt8)

/-- The loop of `ParseSleepMs`. -/
def sleepLoop (ms : UInt32) : List UInt8 → UInt32
  | [] => ms
  | c :: path =>
    if isDigit c then sleepLoop (ms * 10 + (c - '0'.toUInt8).toUInt32) path else ms

/-- `ParseSleepMs`. -/
def parseSleepMs (path : List UInt8) : UInt32 :=
  match findKey sleepKey path with
  | none => 0
  | some pos =>
    match path.drop (pos + sleepKey.length) with
    | [] => 0
    | c :: rest => if !isDigit c then 0 else min (sleepLoop 0 (c :: rest)) maxSleepMs

/-- `struct SampleBehavior`. -/
structure SampleBehavior where
  threatLevel : Int32 := 0
  sleepMs : UInt32 := 0
  shouldCrash : Bool := false
  deriving DecidableEq

/-- `EvaluateSamplePath`. -/
def evaluateSamplePath (path : List UInt8) : SampleBehavior :=
  let shouldCrash := (findKey crashKey path).isSome
  let sleepMs := parseSleepMs path
  let threatLevel :=
    if (findKey virusKey path).isSome || (findKey eicarKey path).isSome then 1 else 0
  -- sleep samples are also considered threats
  { threatLevel := if 0 < sleepMs then 1 else threatLevel, sleepMs, shouldCrash }

/-! ## What the path says -/

/-- The longest run of digits directly behind the first `sleep`, or nothing if there is no
`sleep`. -/
def IsSleepRun (path digits : List UInt8) : Prop :=
  (¬ sleepKey <:+: path ∧ digits = []) ∨
    ∃ before after, path = before ++ (sleepKey ++ (digits ++ after)) ∧
      (∀ i < before.length, ¬ sleepKey <+: path.drop i) ∧
      (∀ c ∈ digits, isDigit c = true) ∧ ∀ c ∈ after.head?, isDigit c = false

/-- The digits directly behind the place that `find` returns. -/
def sleepDigits (path : List UInt8) : List UInt8 :=
  match findKey sleepKey path with
  | none => []
  | some pos => (path.drop (pos + sleepKey.length)).takeWhile isDigit

/-- The number that the digits are the decimal form of. -/
def decimalValue (digits : List UInt8) : ℕ :=
  Nat.ofDigits 10 (digits.reverse.map fun c => c.toNat - '0'.toNat)

/-- `find` returns the first place where the key stands. -/
theorem findKey_eq_some_iff {key path : List UInt8} {pos : ℕ} :
    findKey key path = some pos ↔
      pos ≤ path.length ∧ key <+: path.drop pos ∧ ∀ i < pos, ¬ key <+: path.drop i := by
  rw [findKey, List.findIdx?_eq_some_iff_getElem]
  simp only [List.getElem_tails, List.isPrefixOf_iff_prefix, List.length_tails, exists_prop,
    Nat.lt_succ_iff]

/-- `find` returns a place exactly if the key is part of the path. -/
theorem isSome_findKey {key path : List UInt8} : (findKey key path).isSome ↔ key <:+: path := by
  rw [findKey, List.findIdx?_isSome, List.any_eq_true, List.infix_iff_prefix_suffix]
  simp only [List.mem_tails, List.isPrefixOf_iff_prefix, and_comm]

theorem takeWhile_of_run {p : UInt8 → Bool} {run after : List UInt8}
    (hrun : ∀ c ∈ run, p c = true) (hafter : ∀ c ∈ after.head?, p c = false) :
    (run ++ after).takeWhile p = run := by
  rw [List.takeWhile_append_of_pos hrun]
  cases after with
  | nil => simp
  | cons c after => simp [hafter c rfl]

/-- Every path has exactly one run, and it is behind the place that `find` returns. -/
theorem isSleepRun_iff {path digits : List UInt8} :
    IsSleepRun path digits ↔ digits = sleepDigits path := by
  constructor
  · rintro (⟨hnone, rfl⟩ | ⟨before, after, hpath, hfirst, hdigits, hafter⟩)
    · rw [← isSome_findKey, Bool.not_eq_true, Option.isSome_eq_false_iff] at hnone
      rw [sleepDigits, Option.isNone_iff_eq_none.mp hnone]
    · have hrest : path.drop before.length = sleepKey ++ (digits ++ after) := by
        rw [hpath, List.drop_left]
      have hfind : findKey sleepKey path = some before.length := by
        rw [findKey_eq_some_iff, hrest]
        refine ⟨?_, List.prefix_append _ _, hfirst⟩
        rw [hpath, List.length_append]
        exact Nat.le_add_right _ _
      simp only [sleepDigits, hfind]
      rw [← List.drop_drop, hrest, List.drop_left, takeWhile_of_run hdigits hafter]
  · rintro rfl
    unfold sleepDigits
    split
    · next hnone =>
        refine .inl ⟨?_, rfl⟩
        rw [← isSome_findKey, hnone]
        exact Bool.false_ne_true
    · next pos hfind =>
        obtain ⟨hle, ⟨rest, hrest⟩, hfirst⟩ := findKey_eq_some_iff.mp hfind
        have hbefore : (path.take pos).length = pos := List.length_take_of_le hle
        have hdrop : path.drop (pos + sleepKey.length) = rest := by
          rw [← List.drop_drop, ← hrest, List.drop_left]
        rw [hdrop]
        refine .inr ⟨path.take pos, rest.dropWhile isDigit, ?_, ?_, ?_, ?_⟩
        · rw [List.takeWhile_append_dropWhile, hrest, List.take_append_drop]
        · rw [hbefore]
          exact hfirst
        · exact fun c hc => List.mem_takeWhile_imp hc
        · intro c hc
          have hstop := List.head?_dropWhile_not isDigit rest
          rwa [hc] at hstop

/-- A digit stands for its distance from `0`. -/
theorem toNat_digit {c : UInt8} (h : isDigit c = true) :
    (c - '0'.toUInt8).toUInt32.toNat = c.toNat - '0'.toNat := by
  have hle : '0'.toUInt8 ≤ c := by
    simp only [isDigit, Bool.and_eq_true, decide_eq_true_eq] at h
    exact h.1
  rw [UInt8.toNat_toUInt32, UInt8.toNat_sub_of_le _ _ hle]
  rfl

theorem decimalValue_cons (c : UInt8) (digits : List UInt8) :
    decimalValue (c :: digits) =
      (c.toNat - '0'.toNat) * 10 ^ digits.length + decimalValue digits := by
  rw [decimalValue, List.reverse_cons, List.map_append, Nat.ofDigits_append, ← decimalValue]
  simp
  ring

/-- The loop computes the value of the digits modulo `2 ^ 32`. -/
theorem toNat_sleepLoop (ms : UInt32) (path : List UInt8) :
    (sleepLoop ms path).toNat =
      (ms.toNat * 10 ^ (path.takeWhile isDigit).length + decimalValue (path.takeWhile isDigit)) %
        2 ^ 32 := by
  induction path generalizing ms with
  | nil => simp [sleepLoop, decimalValue, Nat.mod_eq_of_lt ms.toNat_lt]
  | cons c path ih =>
    cases hc : isDigit c with
    | false => simp [sleepLoop, hc, decimalValue, Nat.mod_eq_of_lt ms.toNat_lt]
    | true =>
      rw [sleepLoop, if_pos hc, ih, List.takeWhile_cons_of_pos hc, decimalValue_cons,
        List.length_cons, UInt32.toNat_add, UInt32.toNat_mul, toNat_digit hc]
      generalize (path.takeWhile isDigit).length = n
      generalize decimalValue (path.takeWhile isDigit) = value
      generalize c.toNat - '0'.toNat = digit
      -- what wraps in a round does not matter for the remainder at the end
      have hround : (ms.toNat * (10 : UInt32).toNat % 2 ^ 32 + digit) % 2 ^ 32 ≡
          ms.toNat * 10 + digit [MOD 2 ^ 32] :=
        (Nat.mod_modEq _ _).trans ((Nat.mod_modEq _ _).add_right digit)
      calc _ ≡ (ms.toNat * 10 + digit) * 10 ^ n + value [MOD 2 ^ 32] :=
            (hround.mul_right _).add_right _
        _ = ms.toNat * 10 ^ (n + 1) + (digit * 10 ^ n + value) := by ring

theorem decimalValue_nil : decimalValue [] = 0 := rfl

/-- `ParseSleepMs` cuts the remainder of the value. -/
theorem toNat_parseSleepMs (path : List UInt8) :
    (parseSleepMs path).toNat = min 5000 (decimalValue (sleepDigits path) % 2 ^ 32) := by
  unfold parseSleepMs sleepDigits
  split
  · rfl
  split
  · next hrest => rw [hrest]; rfl
  · next c rest hrest =>
      rw [hrest]
      cases hc : isDigit c with
      | false => simp [hc, decimalValue_nil]
      | true =>
        have hloop := toNat_sleepLoop 0 (c :: rest)
        rw [UInt32.toNat_zero, zero_mul, zero_add] at hloop
        rw [Bool.not_true, if_neg Bool.false_ne_true, UInt32.toNat_min, hloop, min_comm]
        rfl

/-- The limit hides what wraps: the number has 32 bits, or its remainder is above the limit as the
number is. -/
def SleepFits (digits : List UInt8) : Prop :=
  decimalValue digits < 2 ^ 32 ∨ 5000 ≤ decimalValue digits % 2 ^ 32

/-- The scan sleeps as long as the digits say, but no longer than five seconds, and finds a threat
exactly if they are not zero or the path has a bad word in it: this is so for the digits that fit
and for no others. -/
theorem evaluateSamplePath_exact (path digits : List UInt8) (hrun : IsSleepRun path digits) :
    ((evaluateSamplePath path).sleepMs.toNat = min 5000 (decimalValue digits) ∧
      ((evaluateSamplePath path).threatLevel = 1 ↔
        decimalValue digits ≠ 0 ∨ virusKey <:+: path ∨ eicarKey <:+: path)) ↔
      SleepFits digits := by
  have hparse : (parseSleepMs path).toNat = min 5000 (decimalValue digits % 2 ^ 32) := by
    rw [toNat_parseSleepMs, ← isSleepRun_iff.mp hrun]
  have hexact : (parseSleepMs path).toNat = min 5000 (decimalValue digits) ↔
      SleepFits digits := by
    have hle := Nat.mod_le (decimalValue digits) (2 ^ 32)
    rw [hparse]
    unfold SleepFits
    omega
  refine ⟨fun h => hexact.mp h.1, fun hfits => ⟨hexact.mpr hfits, ?_⟩⟩
  have hpos : 0 < parseSleepMs path ↔ decimalValue digits ≠ 0 := by
    rw [UInt32.lt_iff_toNat_lt, hexact.mpr hfits, UInt32.toNat_zero]
    omega
  rw [← isSome_findKey, ← isSome_findKey, ← hpos, ← Bool.or_eq_true]
  unfold evaluateSamplePath
  dsimp only
  by_cases hsleeps : 0 < parseSleepMs path
  · simp [hsleeps]
  · by_cases hword : ((findKey virusKey path).isSome || (findKey eicarKey path).isSome) = true
    · simp only [hsleeps, hword, if_true, if_false, false_or]
    · simp only [hsleeps, hword, if_false, false_or]
      decide

/-- The path `sleep999999.bin` is cut to five seconds. -/
theorem evaluateSamplePath_exact_capped :
    (evaluateSamplePath (sleepKey ++ asciiBytes ['9', '9', '9', '9', '9', '9', '.', 'b', 'i', 'n'])
      ).sleepMs.toNat = 5000 := by
  have hvalue : decimalValue (asciiBytes ['9', '9', '9', '9', '9', '9']) = 999999 := by
    decide +kernel
  refine (((evaluateSamplePath_exact _ (asciiBytes ['9', '9', '9', '9', '9', '9'])
    (isSleepRun_iff.mpr (by decide +kernel))).mpr (.inl ?_)).1).trans ?_
  · rw [hvalue]
    decide
  · rw [hvalue]
    decide

/-- The path `sleep4294967296` does not sleep at all and is no threat. -/
theorem evaluateSamplePath_wraps :
    IsSleepRun (sleepKey ++ asciiBytes ['4', '2', '9', '4', '9', '6', '7', '2', '9', '6'])
        (asciiBytes ['4', '2', '9', '4', '9', '6', '7', '2', '9', '6']) ∧
      decimalValue (asciiBytes ['4', '2', '9', '4', '9', '6', '7', '2', '9', '6']) = 2 ^ 32 ∧
      evaluateSamplePath
          (sleepKey ++ asciiBytes ['4', '2', '9', '4', '9', '6', '7', '2', '9', '6']) =
        { threatLevel := 0, sleepMs := 0, shouldCrash := false } :=
  ⟨isSleepRun_iff.mpr (by decide +kernel), by decide +kernel, by decide +kernel⟩

end MemRpc
