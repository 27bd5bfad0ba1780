import TsTools.Clock
import Mathlib.Data.Nat.Digits

/-!
# The format strings of `sprintf` and `sscanf`

Both tools print and read numbers through C format strings.  `videotime_to_str`
prints a stream time with `sprintf(t, "%d.%02d:%02d:%02d.%d", ...)` and
`str_to_videotime` reads one back with `sscanf` of the same format (lines 56–80);
`clock_inspector -S` reads a PID with `sscanf(optarg, "0x%x", ...)` (line 1466).
A format is modelled as its pieces (`FmtPiece`), and `sprintf` and `sscanf`
interpret the same pieces as the C library does:

* `%0<w>d` prints at least `w` characters, with zeros after the sign, and scans at
  most `w` characters, the sign included;
* a conversion passes over white space first, takes an optional sign, and `%x`
  also passes over a `0x` or `0X` after it;
* the digits are converted by `strtol` (`strtoul` for `%x`) and the result stored
  in an `int` (an `unsigned int`);
* `sscanf` stops at the first conversion or character that does not match.

Main results:

* `scanDec_printDec`, `scanHex_printHex` — one conversion reads back what it printed;
* `sscanf_sprintf` — scanning what `sprintf` printed gives back its arguments when
  each fits its conversion and every field is ended by the character after it.
-/

namespace TsTools

/-! ## Characters in the C locale -/

/-- `isdigit`. -/
def isdigit (c : Char) : Bool := 48 ≤ c.toNat && c.toNat ≤ 57

/-- `isxdigit`. -/
def isxdigit (c : Char) : Bool :=
  isdigit c || (97 ≤ c.toNat && c.toNat ≤ 102) || (65 ≤ c.toNat && c.toNat ≤ 70)

/-- `isalnum`. -/
def isalnum (c : Char) : Bool :=
  isdigit c || (97 ≤ c.toNat && c.toNat ≤ 122) || (65 ≤ c.toNat && c.toNat ≤ 90)

/-- `isspace`: the space, and the controls from `\t` to `\r`. -/
def isspace (c : Char) : Bool := c.toNat = 32 || (9 ≤ c.toNat && c.toNat ≤ 13)

/-- The value of a decimal or hexadecimal digit. -/
def digitValue (c : Char) : Nat :=
  if isdigit c then c.toNat - 48 else if 97 ≤ c.toNat then c.toNat - 87 else c.toNat - 55

/-- The digits `Nat.digitChar` writes are read back, and the decimal ones are `isdigit`. -/
theorem digitChar_spec : ∀ d < 16, digitValue (Nat.digitChar d) = d ∧
    isxdigit (Nat.digitChar d) = true ∧ (d < 10 → isdigit (Nat.digitChar d) = true) := by
  decide

theorem isxdigit_of_isdigit {c : Char} (h : isdigit c = true) : isxdigit c = true := by
  simp [isxdigit, h]

theorem not_isspace_of_isxdigit {c : Char} (h : isxdigit c = true) : isspace c = false := by
  simp [isxdigit, isdigit, isspace] at h ⊢
  omega

/-- A character that ends a field of `%d` or `%x`: neither a letter nor a digit. -/
def endsField (c : Char) : Bool := !isalnum c

/-- A character that ends a field is no digit of either base, and no `x` of a prefix. -/
theorem endsField_spec {c : Char} (h : endsField c = true) :
    isxdigit c = false ∧ isdigit c = false ∧ c ≠ 'x' ∧ c ≠ 'X' := by
  have hx : c ≠ 'x' ∧ c ≠ 'X' := by
    constructor <;> rintro rfl <;> exact absurd h (by decide)
  simp [endsField, isalnum, isxdigit, isdigit] at h ⊢
  exact ⟨⟨by omega, by omega⟩, by omega, hx⟩

/-! ## The digits `sprintf` prints -/

/-- `Nat.toDigitsCore` puts its digits before those it is given. -/
theorem toDigitsCore_append (b f n : Nat) (ds : List Char) :
    Nat.toDigitsCore b f n ds = Nat.toDigitsCore b f n [] ++ ds := by
  induction f generalizing n ds with
  | zero => rfl
  | succ f ih =>
    simp only [Nat.toDigitsCore]
    split
    · rfl
    · rw [ih _ (_ :: ds), ih _ [_], List.append_assoc, List.singleton_append]

/-- The last digit comes off the end. -/
theorem toDigitsCore_succ (b f n : Nat) :
    Nat.toDigitsCore b (f + 1) n [] =
      (if n / b = 0 then [] else Nat.toDigitsCore b f (n / b) []) ++ [Nat.digitChar (n % b)] := by
  simp only [Nat.toDigitsCore]
  split
  · rfl
  · exact toDigitsCore_append ..

theorem mem_toDigitsCore {b : Nat} (hb : 0 < b) {f n : Nat} {c : Char}
    (h : c ∈ Nat.toDigitsCore b f n []) : ∃ d < b, Nat.digitChar d = c := by
  induction f generalizing n with
  | zero => simp [Nat.toDigitsCore] at h
  | succ f ih =>
    rw [toDigitsCore_succ, List.mem_append, List.mem_singleton] at h
    rcases h with h | rfl
    · split at h
      · simp at h
      · exact ih h
    · exact ⟨_, Nat.mod_lt _ hb, rfl⟩

theorem toDigits_ne_nil (b n : Nat) : Nat.toDigits b n ≠ [] := by
  simp [Nat.toDigits, toDigitsCore_succ]

theorem isdigit_of_mem_toDigits {n : Nat} {c : Char} (h : c ∈ Nat.toDigits 10 n) :
    isdigit c = true := by
  obtain ⟨d, hd, rfl⟩ := mem_toDigitsCore (by decide) h
  exact (digitChar_spec d (by omega)).2.2 hd

theorem isxdigit_of_mem_toDigits {n : Nat} {c : Char} (h : c ∈ Nat.toDigits 16 n) :
    isxdigit c = true := by
  obtain ⟨d, hd, rfl⟩ := mem_toDigitsCore (by decide) h
  exact (digitChar_spec d hd).2.1

/-- The value of digits, most significant first. -/
def digitsValue (base : Nat) (ds : List Char) : Nat :=
  ds.foldl (fun n c => base * n + digitValue c) 0

theorem digitsValue_append (base : Nat) (ds : List Char) (c : Char) :
    digitsValue base (ds ++ [c]) = base * digitsValue base ds + digitValue c := by
  simp only [digitsValue, List.foldl_append, List.foldl_cons, List.foldl_nil]

/-- Leading zeros add nothing. -/
theorem digitsValue_zeros (base k : Nat) (ds : List Char) :
    digitsValue base (List.replicate k '0' ++ ds) = digitsValue base ds := by
  have h : ∀ k, (List.replicate k '0').foldl (fun n c => base * n + digitValue c) 0 = 0 := by
    intro k
    induction k with
    | zero => rfl
    | succ k ih => rw [List.replicate_succ', List.foldl_append, ih]; rfl
  simp only [digitsValue, List.foldl_append, h]

theorem digitsValue_toDigitsCore {b : Nat} (hb : 2 ≤ b) (hb' : b ≤ 16) {f n : Nat}
    (hf : n < f) : digitsValue b (Nat.toDigitsCore b f n []) = n := by
  induction f generalizing n with
  | zero => omega
  | succ f ih =>
    have hd := (digitChar_spec (n % b) (by have := Nat.mod_lt n (by omega : 0 < b); omega)).1
    rw [toDigitsCore_succ, digitsValue_append, hd]
    split
    · rename_i h
      simp [digitsValue, Nat.mod_eq_of_lt ((Nat.div_eq_zero_iff (by omega)).1 h)]
    · rename_i h
      have hn : 0 < n := Nat.pos_of_ne_zero fun h0 => h (by rw [h0, Nat.zero_div])
      rw [ih (lt_of_lt_of_le (Nat.div_lt_self hn (by omega)) (by omega))]
      exact Nat.div_add_mod n b

theorem digitsValue_toDigits {b : Nat} (hb : 2 ≤ b) (hb' : b ≤ 16) (n : Nat) :
    digitsValue b (Nat.toDigits b n) = n :=
  digitsValue_toDigitsCore hb hb' (Nat.lt_succ_self n)

/-! ## `sprintf` -/

/-- A piece of a format string: an ordinary character, `%d` or `%0<w>d` with its width, or
`%x`. -/
inductive FmtPiece where
  | lit (c : Char)
  | dec (width : Option Nat)
  | hex
  deriving Repr, DecidableEq

/-- The sign `%d` prints. -/
def decSign (v : Int) : List Char := if v < 0 then ['-'] else []

/-- The digits `%d` prints: those of the magnitude. -/
def decDigits (v : Int) : List Char := Nat.toDigits 10 v.natAbs

/-- `%0<w>d` of an `int`: the sign, zeros up to the width, and the digits. -/
def printDec (width : Option Nat) (v : Int) : List Char :=
  decSign v ++ List.replicate (width.getD 0 - (decSign v ++ decDigits v).length) '0' ++
    decDigits v

/-- `%x` of an `unsigned int`: the hexadecimal digits, in lower case. -/
def printHex (v : Int) : List Char := Nat.toDigits 16 (v % 2 ^ 32).toNat

/-- `sprintf` of the pieces over the arguments (a conversion without an argument ends the
text; the callers pass one for each). -/
def sprintf : List FmtPiece → List Int → List Char
  | [], _ => []
  | .lit c :: ps, vs => c :: sprintf ps vs
  | .dec w :: ps, v :: vs => printDec w v ++ sprintf ps vs
  | .hex :: ps, v :: vs => printHex v ++ sprintf ps vs
  | _ :: _, [] => []

/-- A text that fits the width is padded to exactly the width. -/
theorem printDec_length {n : Nat} {v : Int} (h : (printDec none v).length ≤ n) :
    (printDec (some n) v).length = n := by
  simp only [printDec, Option.getD_none, Nat.zero_sub, List.replicate_zero, List.append_nil,
    List.length_append] at h
  simp only [printDec, Option.getD_some, List.length_append, List.length_replicate]
  omega

/-- The unpadded text of a value not negative and of magnitude below `10 ^ k` has at most `k`
characters. -/
theorem printDec_none_length_le {v : Int} {k : Nat} (h₀ : 0 ≤ v) (h : v.natAbs < 10 ^ k)
    (hk : 0 < k) : (printDec none v).length ≤ k := by
  have hd : (decDigits v).length ≤ k := Nat.toDigitsCore_length 10 (by decide) _ _ k h hk
  simp only [printDec, decSign, if_neg (not_lt.2 h₀), Option.getD_none, Nat.zero_sub,
    List.replicate_zero, List.append_nil, List.nil_append]
  exact hd

/-! ## `sscanf` -/

/-- `strtol` of a sign and a magnitude: saturated to the range of `long`. -/
def strtol (neg : Bool) (mag : Nat) : Int :=
  max (-2 ^ 63) (min (if neg then -(mag : Int) else mag) (2 ^ 63 - 1))

/-- `strtoul` of a sign and a magnitude: `ULONG_MAX` when the magnitude exceeds it, otherwise
the magnitude, negated modulo `2^64` after a minus sign. -/
def strtoul (neg : Bool) (mag : Nat) : Nat :=
  if 2 ^ 64 ≤ mag then 2 ^ 64 - 1 else if neg then (2 ^ 64 - mag) % 2 ^ 64 else mag

/-- The characters a conversion of width `w` may read, and what follows them; a zero width is
no width. -/
def scanField : Option Nat → List Char → List Char × List Char
  | some (n + 1), s => (s.take (n + 1), s.drop (n + 1))
  | _, s => (s, [])

/-- An optional sign. -/
def scanSign : List Char → Bool × List Char
  | '-' :: t => (true, t)
  | '+' :: t => (false, t)
  | t => (false, t)

/-- `%d` on its field: the sign and the digits, converted by `strtol` and stored in an `int`;
`none` when no digit is read.  What the field leaves is read next, then `rest`. -/
def scanDecField (field rest : List Char) : Option (Int × List Char) :=
  let (neg, body) := scanSign field
  let ds := body.takeWhile isdigit
  if ds = [] then none
  else some (toInt32 (strtol neg (digitsValue 10 ds)), body.dropWhile isdigit ++ rest)

/-- `%d` or `%0<w>d` after the white space. -/
def scanDec (width : Option Nat) (s : List Char) : Option (Int × List Char) :=
  scanDecField (scanField width s).1 (scanField width s).2

/-- A `0x` or `0X` after the sign of `%x`: the `0` is read as a digit and the `x` passed
over. -/
def skipHexPrefix : List Char → List Char
  | '0' :: c :: t => if c = 'x' ∨ c = 'X' then '0' :: t else '0' :: c :: t
  | t => t

/-- `%x` after the white space: the sign, the prefix and the digits, converted by `strtoul` and
stored in an `unsigned int`; `none` when no digit is read. -/
def scanHex (s : List Char) : Option (Int × List Char) :=
  let (neg, body) := scanSign s
  let body := skipHexPrefix body
  let ds := body.takeWhile isxdigit
  if ds = [] then none
  else some ((strtoul neg (digitsValue 16 ds) % 2 ^ 32 : Nat), body.dropWhile isxdigit)

/-- `sscanf`: the values stored, in order, up to the first conversion or character that does
not match; a white-space character of the format passes over any white space.  `sscanf`
returns how many there are (or `EOF` when the input ends before the first conversion, which
every caller treats as too few). -/
def sscanf : List FmtPiece → List Char → List Int
  | [], _ => []
  | .lit c :: ps, s =>
    if isspace c then sscanf ps (s.dropWhile isspace)
    else match s with
      | c' :: t => if c' = c then sscanf ps t else []
      | [] => []
  | .dec w :: ps, s =>
    match scanDec w (s.dropWhile isspace) with
    | some (v, t) => v :: sscanf ps t
    | none => []
  | .hex :: ps, s =>
    match scanHex (s.dropWhile isspace) with
    | some (v, t) => v :: sscanf ps t
    | none => []

/-! ## Reading back what was printed -/

/-- The first character of what the pieces print, when they start with a literal, ends a
field. -/
def startsWithEnd : List FmtPiece → Bool
  | [] => true
  | .lit c :: _ => endsField c
  | _ => false

/-- A format whose conversions read back: no literal is white space, and a conversion without a
width is followed by nothing or by a literal that ends its field. -/
def Separated : List FmtPiece → Bool
  | [] => true
  | .lit c :: ps => !isspace c && Separated ps
  | .dec (some (_ + 1)) :: ps => Separated ps
  | _ :: ps => startsWithEnd ps && Separated ps

/-- Arguments that read back: for `%d` an `int` whose unpadded text fits the width, for `%x` an
`unsigned int`. -/
def ArgsFit : List FmtPiece → List Int → Prop
  | [], [] => True
  | .lit _ :: ps, vs => ArgsFit ps vs
  | .dec w :: ps, v :: vs =>
    -2 ^ 31 ≤ v ∧ v < 2 ^ 31 ∧ (∀ n ∈ w, (printDec none v).length ≤ n) ∧ ArgsFit ps vs
  | .hex :: ps, v :: vs => 0 ≤ v ∧ v < 2 ^ 32 ∧ ArgsFit ps vs
  | _, _ => False

theorem takeWhile_dropWhile_append {p : Char → Bool} {ds t : List Char}
    (hd : ∀ c ∈ ds, p c = true) (ht : ∀ c ∈ t.head?, p c = false) :
    (ds ++ t).takeWhile p = ds ∧ (ds ++ t).dropWhile p = t := by
  rw [List.takeWhile_append_of_pos hd, List.dropWhile_append_of_pos hd]
  cases t with
  | nil => simp
  | cons c t => simp [List.takeWhile_cons, List.dropWhile_cons, ht c rfl]

theorem dropWhile_isspace_append {l : List Char} (hl : l ≠ []) (h : ∀ c ∈ l, isspace c = false)
    (s : List Char) : (l ++ s).dropWhile isspace = l ++ s := by
  obtain ⟨c, cs, rfl⟩ := List.exists_cons_of_ne_nil hl
  simp [List.dropWhile_cons, h c (List.mem_cons_self _ _)]

theorem scanSign_of_isxdigit {c : Char} (hc : isxdigit c = true) (t : List Char) :
    scanSign (c :: t) = (false, c :: t) := by
  have h₁ : c ≠ '-' := by rintro rfl; exact absurd hc (by decide)
  have h₂ : c ≠ '+' := by rintro rfl; exact absurd hc (by decide)
  unfold scanSign
  split <;> simp_all

theorem skipHexPrefix_cons (c : Char) {l : List Char} (h : ∀ d ∈ l.head?, d ≠ 'x' ∧ d ≠ 'X') :
    skipHexPrefix (c :: l) = c :: l := by
  cases l with
  | nil => unfold skipHexPrefix; split <;> simp_all
  | cons d l =>
    have := h d rfl
    unfold skipHexPrefix; split <;> simp_all

/-- `strtol` keeps the sign and magnitude of a `long`. -/
theorem strtol_natAbs {v : Int} (h₁ : -2 ^ 63 ≤ v) (h₂ : v < 2 ^ 63) :
    strtol (decide (v < 0)) v.natAbs = v := by
  unfold strtol
  by_cases h : v < 0
  · rw [decide_eq_true h, if_pos rfl, Int.ofNat_natAbs_of_nonpos h.le]; omega
  · rw [decide_eq_false h, if_neg (by decide), Int.natAbs_of_nonneg (not_lt.1 h)]; omega

theorem mem_printDec {w : Option Nat} {v : Int} {c : Char} (h : c ∈ printDec w v) :
    c = '-' ∨ isdigit c = true := by
  simp only [printDec, decSign, List.mem_append, List.mem_replicate] at h
  rcases h with (h | ⟨-, rfl⟩) | h
  · split at h <;> simp_all
  · exact .inr rfl
  · exact .inr (isdigit_of_mem_toDigits h)

/-- `%d` reads its own text back from its field, whatever follows within the field once it
does not start with a digit. -/
theorem scanDecField_printDec (w : Option Nat) {v : Int} (h₁ : -2 ^ 31 ≤ v) (h₂ : v < 2 ^ 31)
    {u : List Char} (hu : ∀ c ∈ u.head?, isdigit c = false) (rest : List Char) :
    scanDecField (printDec w v ++ u) rest = some (v, u ++ rest) := by
  set ds := List.replicate (w.getD 0 - (decSign v ++ decDigits v).length) '0' ++ decDigits v
  have hds : ∀ c ∈ ds, isdigit c = true := by
    simp only [ds, List.mem_append, List.mem_replicate]
    rintro c (⟨-, rfl⟩ | h)
    · rfl
    · exact isdigit_of_mem_toDigits h
  have hne : ds ≠ [] := by simp [ds, decDigits, toDigits_ne_nil]
  obtain ⟨c, cs, hc⟩ := List.exists_cons_of_ne_nil hne
  have hsign : scanSign (decSign v ++ (ds ++ u)) = (decide (v < 0), ds ++ u) := by
    unfold decSign
    split
    · simp_all [scanSign]
    · rw [List.nil_append, hc, List.cons_append,
        scanSign_of_isxdigit (isxdigit_of_isdigit (hds c (by simp [hc])))]
      simp_all
  obtain ⟨htw, hdw⟩ := takeWhile_dropWhile_append hds hu
  have hval : digitsValue 10 ds = v.natAbs := by
    rw [digitsValue_zeros, decDigits, digitsValue_toDigits (by decide) (by decide)]
  rw [show printDec w v ++ u = decSign v ++ (ds ++ u) by simp [printDec, ds], scanDecField]
  simp only [hsign, htw, hdw, hne, if_false, hval, strtol_natAbs (v := v) (by omega) (by omega),
    toInt32_of_mem h₁ h₂]

/-- **`%d` reads back what it printed**: an `int` whose unpadded text fits the width, followed
by anything when there is a width and otherwise by a character that is not a digit. -/
theorem scanDec_printDec {w : Option Nat} {v : Int} (h₁ : -2 ^ 31 ≤ v) (h₂ : v < 2 ^ 31)
    (hw : ∀ n ∈ w, (printDec none v).length ≤ n) {t : List Char}
    (ht : w = none → ∀ c ∈ t.head?, isdigit c = false) :
    scanDec w (printDec w v ++ t) = some (v, t) := by
  rcases w with _ | _ | n
  · simpa [scanDec, scanField] using scanDecField_printDec none h₁ h₂ (ht rfl) []
  · have := hw 0 rfl
    simp [printDec, decDigits, toDigits_ne_nil] at this
  · have hl := printDec_length (hw (n + 1) rfl)
    simpa [scanDec, scanField, List.take_left' hl, List.drop_left' hl] using
      scanDecField_printDec (some (n + 1)) h₁ h₂ (u := []) (by simp) t

/-- **`%x` reads back what it printed**: an `unsigned int`, followed by a character that ends
its field. -/
theorem scanHex_printHex {v : Int} (h₀ : 0 ≤ v) (h₁ : v < 2 ^ 32) {t : List Char}
    (ht : ∀ c ∈ t.head?, endsField c = true) : scanHex (printHex v ++ t) = some (v, t) := by
  have hp : printHex v = Nat.toDigits 16 v.toNat := by
    rw [printHex, Int.emod_eq_of_lt h₀ h₁]
  have hds : ∀ c ∈ Nat.toDigits 16 v.toNat, isxdigit c = true :=
    fun c h => isxdigit_of_mem_toDigits h
  obtain ⟨c, cs, hc⟩ := List.exists_cons_of_ne_nil (toDigits_ne_nil 16 v.toNat)
  have hskip : skipHexPrefix (Nat.toDigits 16 v.toNat ++ t) = Nat.toDigits 16 v.toNat ++ t := by
    rw [hc, List.cons_append]
    refine skipHexPrefix_cons c fun d hd => ?_
    cases cs with
    | nil => exact (endsField_spec (ht d (by simpa using hd))).2.2
    | cons d' cs =>
      obtain rfl : d' = d := by simpa using hd
      have := hds d' (by simp [hc])
      constructor <;> rintro rfl <;> exact absurd this (by decide)
  obtain ⟨htw, hdw⟩ := takeWhile_dropWhile_append hds fun c hc => (endsField_spec (ht c hc)).1
  have hsign : scanSign (Nat.toDigits 16 v.toNat ++ t) = (false, Nat.toDigits 16 v.toNat ++ t) := by
    rw [hc, List.cons_append, scanSign_of_isxdigit (hds c (by simp [hc]))]
  rw [hp, scanHex]
  simp only [hsign, hskip, htw, hdw, toDigits_ne_nil, if_false,
    digitsValue_toDigits (by decide : 2 ≤ 16) (by decide)]
  have : v.toNat < 2 ^ 32 := by omega
  simp only [strtoul, Bool.false_eq_true, if_false, if_neg (by omega : ¬2 ^ 64 ≤ v.toNat),
    Nat.mod_eq_of_lt this, Int.toNat_of_nonneg h₀]

/-- What follows a conversion: the next literal, or what follows the whole text. -/
theorem endsField_head_sprintf {ps : List FmtPiece} (h : startsWithEnd ps = true) (vs : List Int)
    {rest : List Char} (hrest : ∀ c ∈ rest.head?, endsField c = true) :
    ∀ c ∈ (sprintf ps vs ++ rest).head?, endsField c = true := by
  match ps, h with
  | [], _ => simpa [sprintf] using hrest
  | .lit c :: ps, h => simpa [sprintf] using h

theorem printDec_ne_nil (w : Option Nat) (v : Int) : printDec w v ≠ [] := by
  simp [printDec, decDigits, toDigits_ne_nil]

theorem not_isspace_of_mem_printDec {w : Option Nat} {v : Int} :
    ∀ c ∈ printDec w v, isspace c = false := by
  intro c h
  rcases mem_printDec h with rfl | h
  · rfl
  · exact not_isspace_of_isxdigit (isxdigit_of_isdigit h)

/-- **Round trip of a format.**  Scanning what `sprintf` printed, followed by anything that
ends a field, stores exactly the arguments, when each fits its conversion and every field is
ended by the character after it. -/
theorem sscanf_sprintf : ∀ {ps : List FmtPiece} {vs : List Int}, Separated ps = true →
    ArgsFit ps vs → ∀ {rest : List Char}, (∀ c ∈ rest.head?, endsField c = true) →
    sscanf ps (sprintf ps vs ++ rest) = vs
  | [], [], _, _, _, _ => rfl
  | .lit c :: ps, vs, hsep, hfit, rest, hrest => by
    simp only [Separated, Bool.and_eq_true, Bool.not_eq_true'] at hsep
    simp only [sprintf, List.cons_append, sscanf, hsep.1, if_false, if_true]
    exact sscanf_sprintf hsep.2 hfit hrest
  | .dec w :: ps, v :: vs, hsep, ⟨h₁, h₂, hw, hfit⟩, rest, hrest => by
    have hnext : w = none → ∀ c ∈ (sprintf ps vs ++ rest).head?, isdigit c = false := by
      rintro rfl c hc
      simp only [Separated, Bool.and_eq_true] at hsep
      exact (endsField_spec (endsField_head_sprintf hsep.1 vs hrest c hc)).2.1
    have hsep' : Separated ps = true := by
      rcases w with _ | _ | n <;> simp_all [Separated]
    simp only [sprintf, List.append_assoc, sscanf,
      dropWhile_isspace_append (printDec_ne_nil w v) not_isspace_of_mem_printDec,
      scanDec_printDec h₁ h₂ hw hnext]
    rw [sscanf_sprintf hsep' hfit hrest]
  | .hex :: ps, v :: vs, hsep, ⟨h₀, h₁, hfit⟩, rest, hrest => by
    simp only [Separated, Bool.and_eq_true] at hsep
    simp only [sprintf, List.append_assoc, sscanf, dropWhile_isspace_append
        (show printHex v ≠ [] from toDigits_ne_nil _ _) fun c hc => not_isspace_of_isxdigit (isxdigit_of_mem_toDigits hc),
      scanHex_printHex h₀ h₁ (endsField_head_sprintf hsep.1 vs hrest)]
    rw [sscanf_sprintf hsep.2 hfit hrest]

end TsTools
