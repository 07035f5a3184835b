import RecordFlow.Number.Decimal
import RecordFlow.Proofs.Json.RoundTrip
import RecordFlow.Proofs.Number.Digits

/-!
# Numeral — numbers in a text

A number of JSON has a whole part that begins with a zero only if it is zero, and may have a
fraction and an exponent.  `Json.readNumber` takes one off the front of a text.  Whatever number the
printer writes is one of these (`Json.exists_numeral_render`), so the reader takes exactly the
characters that the printer wrote (`Json.readNumber_numberText`).
-/

namespace RecordFlow
namespace Json

/-! ## Reading -/

/-- Reads one digit at least. -/
def readDigits : Reader (List Char) := fun text =>
  let digits := text.takeWhile Char.isDigit
  if digits = [] then none else some (digits, text.dropWhile Char.isDigit)

/-- Reads a point with digits behind it, if there is one. -/
def readFraction : Reader (List Char)
  | '.' :: text => readDigits text
  | text => some ([], text)

/-- Reads the sign of an exponent, whether it is negative. -/
def readSign : List Char → Bool × List Char
  | '-' :: text => (true, text)
  | '+' :: text => (false, text)
  | text => (false, text)

/-- Reads an exponent, if there is one. -/
def readExponent : Reader (Option Int)
  | [] => some (none, [])
  | c :: text =>
    if c = 'e' ∨ c = 'E' then
      let (negative, text) := readSign text
      (readDigits text).map fun (digits, rest) =>
        let exponent : Int := Nat.ofDigitChars 10 digits 0
        (some (if negative then -exponent else exponent), rest)
    else some (none, c :: text)

/-- The value of the parts of a number: a natural number if it has nothing else. -/
def numberOf (negative : Bool) (whole fraction : List Char) (exponent? : Option Int) : Json :=
  if negative = false ∧ fraction = [] ∧ exponent? = none then
    .natural (Nat.ofDigitChars 10 whole 0)
  else
    .number (Decimal.nearest negative (Nat.ofDigitChars 10 (whole ++ fraction) 0)
      (exponent?.getD 0 - fraction.length))

/-- Reads a number without its sign. -/
def readUnsigned (negative : Bool) : Reader Json := fun text => do
  let (whole, rest) ← readDigits text
  if whole.head? = some '0' ∧ whole ≠ ['0'] then none
  else
    let (fraction, rest) ← readFraction rest
    let (exponent?, rest) ← readExponent rest
    pure (numberOf negative whole fraction exponent?, rest)

def readNumber : Reader Json
  | '-' :: text => readUnsigned true text
  | text => readUnsigned false text

/-! ## The parts of a number -/

/-- A number without its sign. -/
structure Numeral where
  whole : List Char
  fraction : List Char
  /-- The sign of the exponent and its digits. -/
  exponent? : Option (Char × List Char)
  whole_ne_nil : whole ≠ []
  whole_isDigit : ∀ c ∈ whole, c.isDigit = true
  /-- Only zero begins with a zero. -/
  eq_zero_of_head? : whole.head? = some '0' → whole = ['0']
  fraction_isDigit : ∀ c ∈ fraction, c.isDigit = true
  sign_eq : ∀ e ∈ exponent?, e.1 = '-' ∨ e.1 = '+'
  exponent_ne_nil : ∀ e ∈ exponent?, e.2 ≠ []
  exponent_isDigit : ∀ e ∈ exponent?, ∀ c ∈ e.2, c.isDigit = true

namespace Numeral

def fractionText (n : Numeral) : List Char :=
  if n.fraction = [] then [] else '.' :: n.fraction

def exponentText (n : Numeral) : List Char :=
  match n.exponent? with
  | none => []
  | some (sign, digits) => 'e' :: sign :: digits

def text (n : Numeral) : List Char := n.whole ++ n.fractionText ++ n.exponentText

def exponentValue? (n : Numeral) : Option Int :=
  n.exponent?.map fun (sign, digits) =>
    let exponent : Int := Nat.ofDigitChars 10 digits 0
    if sign = '-' then -exponent else exponent

def value (n : Numeral) (negative : Bool) : Json :=
  numberOf negative n.whole n.fraction n.exponentValue?

end Numeral

/-! ## Reading the parts -/

theorem Ends.head_ne {c : Char} {rest : List Char} (hends : Ends (c :: rest)) :
    c ≠ '.' ∧ c ≠ 'e' ∧ c ≠ 'E' := by
  simp only [Ends, continuesNumber, List.head?_cons, Option.any_some, Bool.or_eq_false_iff,
    beq_eq_false_iff_ne] at hends
  exact ⟨hends.1.1.2, hends.1.2, hends.2⟩

theorem readDigits_append {digits rest : List Char} (hsome : digits ≠ [])
    (hdigits : ∀ c ∈ digits, c.isDigit = true) (hstop : NoDigit rest) :
    readDigits (digits ++ rest) = some (digits, rest) := by
  rcases split_at_digits hdigits hstop with ⟨htake, hdrop⟩
  simp only [readDigits, htake, hdrop, hsome, if_false]

namespace Numeral

variable (n : Numeral) {rest : List Char}

/-- An exponent begins with its mark. -/
theorem noDigit_exponentText (hends : Ends rest) : NoDigit (n.exponentText ++ rest) := by
  unfold exponentText
  cases n.exponent? with
  | none => exact hends.noDigit
  | some e => exact noDigit_cons (by decide) _

/-- A fraction begins with its point. -/
theorem noDigit_fractionText (hends : Ends rest) :
    NoDigit (n.fractionText ++ (n.exponentText ++ rest)) := by
  unfold fractionText
  split
  case isTrue => exact n.noDigit_exponentText hends
  case isFalse => exact noDigit_cons (by decide) _

theorem readFraction_fractionText (hends : Ends rest) :
    readFraction (n.fractionText ++ (n.exponentText ++ rest)) =
      some (n.fraction, n.exponentText ++ rest) := by
  unfold fractionText
  split
  case isTrue hnone =>
    -- without a fraction no point follows
    have hpoint : ∀ text, n.exponentText ++ rest ≠ '.' :: text := by
      intro text htext
      unfold exponentText at htext
      cases he : n.exponent? with
      | none =>
        rw [he, List.nil_append] at htext
        rw [htext] at hends
        exact hends.head_ne.1 rfl
      | some e =>
        rw [he] at htext
        cases htext
    rw [List.nil_append, hnone]
    unfold readFraction
    split
    case h_1 text htext => exact absurd htext (hpoint text)
    case h_2 => rfl
  case isFalse hsome =>
    exact readDigits_append hsome n.fraction_isDigit (n.noDigit_exponentText hends)

theorem readExponent_exponentText (hends : Ends rest) :
    readExponent (n.exponentText ++ rest) = some (n.exponentValue?, rest) := by
  unfold exponentText exponentValue?
  cases he : n.exponent? with
  | none =>
    cases rest with
    | nil => rfl
    | cons c rest =>
      have hmark : ¬ (c = 'e' ∨ c = 'E') := by
        rintro (h | h)
        · exact hends.head_ne.2.1 h
        · exact hends.head_ne.2.2 h
      simp [readExponent, hmark]
  | some e =>
    rcases e with ⟨sign, digits⟩
    have hread := readDigits_append (n.exponent_ne_nil _ he) (n.exponent_isDigit _ he)
      hends.noDigit
    rcases n.sign_eq _ he with rfl | rfl
    · simp [readExponent, readSign, hread]
    · simp [readExponent, readSign, hread]

theorem readUnsigned_text (negative : Bool) (hends : Ends rest) :
    readUnsigned negative (n.text ++ rest) = some (n.value negative, rest) := by
  have hwhole := readDigits_append n.whole_ne_nil n.whole_isDigit (n.noDigit_fractionText hends)
  have hvain : ¬ (n.whole.head? = some '0' ∧ n.whole ≠ ['0']) := fun h =>
    h.2 (n.eq_zero_of_head? h.1)
  rw [text, List.append_assoc, List.append_assoc, readUnsigned, hwhole]
  simp [hvain, n.readFraction_fractionText hends, n.readExponent_exponentText hends, value]

/-- A number begins with a digit. -/
theorem text_eq_cons : ∃ c cs, n.text = c :: cs ∧ c.isDigit = true := by
  cases hwhole : n.whole with
  | nil => exact absurd hwhole n.whole_ne_nil
  | cons c cs =>
    refine ⟨c, cs ++ n.fractionText ++ n.exponentText, by rw [text, hwhole]; rfl, ?_⟩
    exact n.whole_isDigit c (by rw [hwhole]; exact List.mem_cons_self)

/-- The number is read behind its sign. -/
theorem readNumber_text (negative : Bool) (hends : Ends rest) :
    readNumber ((if negative then ['-'] else []) ++ n.text ++ rest) =
      some (n.value negative, rest) := by
  cases negative with
  | true => exact n.readUnsigned_text true hends
  | false =>
    rcases n.text_eq_cons with ⟨c, cs, htext, hdigit⟩
    have hsign : c ≠ '-' := by
      rintro rfl
      cases hdigit
    have hunsigned := n.readUnsigned_text false hends
    rw [htext] at hunsigned ⊢
    rw [← hunsigned]
    unfold readNumber
    split
    case h_1 text htext => exact absurd (List.cons.inj htext).1 hsign
    case h_2 => rfl

end Numeral

/-! ## Printed numbers -/

theorem isDigit_of_mem_zeros {n : Nat} {c : Char} (h : c ∈ Shortest.zeros n) :
    c.isDigit = true := by
  rw [List.eq_of_mem_replicate h]
  rfl

/-- A number without an exponent. -/
def Numeral.plain (whole fraction : List Char) (hsome : whole ≠ [])
    (hwhole : ∀ c ∈ whole, c.isDigit = true) (hzero : whole.head? = some '0' → whole = ['0'])
    (hfraction : ∀ c ∈ fraction, c.isDigit = true) : Numeral where
  whole := whole
  fraction := fraction
  exponent? := none
  whole_ne_nil := hsome
  whole_isDigit := hwhole
  eq_zero_of_head? := hzero
  fraction_isDigit := hfraction
  sign_eq := by simp
  exponent_ne_nil := by simp
  exponent_isDigit := by simp

theorem Numeral.text_plain {whole fraction : List Char} (hsome : whole ≠ [])
    (hwhole : ∀ c ∈ whole, c.isDigit = true) (hzero : whole.head? = some '0' → whole = ['0'])
    (hfraction : ∀ c ∈ fraction, c.isDigit = true) :
    (plain whole fraction hsome hwhole hzero hfraction).text =
      whole ++ if fraction = [] then [] else '.' :: fraction :=
  List.append_nil _

/-- A natural number is read as itself. -/
theorem readNumber_toDigits (n : Nat) {rest : List Char} (hends : Ends rest) :
    readNumber (Nat.toDigits 10 n ++ rest) = some (.natural n, rest) := by
  have hzero : (Nat.toDigits 10 n).head? = some '0' → Nat.toDigits 10 n = ['0'] := by
    intro hhead
    rw [head?_toDigits_eq_zero hhead]
    rfl
  let numeral := Numeral.plain (Nat.toDigits 10 n) [] Nat.toDigits_ne_nil
    (fun _ => isDigit_of_mem_digits) hzero (by simp)
  have htext : numeral.text = Nat.toDigits 10 n := by
    rw [Numeral.text_plain, if_pos rfl, List.append_nil]
  have hvalue : numeral.value false = .natural n := by
    show Json.natural (Nat.ofDigitChars 10 (Nat.toDigits 10 n) 0) = .natural n
    rw [Nat.ofDigitChars_ten_toDigits]
  have hread := numeral.readNumber_text false hends
  rwa [htext, hvalue] at hread

/-- Digits with a point among them, behind them or before them are the text of a number. -/
theorem exists_numeral_positional (pointed : Bool) {x : Shortest.Digits}
    (hzero : x.digits = 0 → x.scale = 0) :
    ∃ n : Numeral, Shortest.positional pointed (Nat.toDigits 10 x.digits) x.scale = n.text := by
  have hsome : Nat.toDigits 10 x.digits ≠ [] := Nat.toDigits_ne_nil
  have hdigits : ∀ c ∈ Nat.toDigits 10 x.digits, c.isDigit = true := fun _ => isDigit_of_mem_digits
  have hhead : (Nat.toDigits 10 x.digits).head? = some '0' →
      Nat.toDigits 10 x.digits = ['0'] ∧ x.scale = 0 := by
    intro hhead
    have hnone := head?_toDigits_eq_zero hhead
    exact ⟨by rw [hnone]; rfl, hzero hnone⟩
  unfold Shortest.positional
  generalize Nat.toDigits 10 x.digits = digits at hsome hdigits hhead
  split
  case isTrue hscale =>
    have hall : ∀ c ∈ digits ++ Shortest.zeros x.scale.toNat, c.isDigit = true := by
      intro c hc
      rcases List.mem_append.1 hc with hc | hc
      · exact hdigits c hc
      · exact isDigit_of_mem_zeros hc
    have hfirst : (digits ++ Shortest.zeros x.scale.toNat).head? = some '0' →
        digits ++ Shortest.zeros x.scale.toNat = ['0'] := by
      intro hfirst
      -- the zeros stand behind the digits, and there are none behind zero itself
      rw [List.head?_append, Option.or_of_isSome (by simpa using hsome)] at hfirst
      rw [(hhead hfirst).1, (hhead hfirst).2]
      rfl
    refine ⟨.plain (digits ++ Shortest.zeros x.scale.toNat) (if pointed then ['0'] else [])
      (by simp [hsome]) hall hfirst (by cases pointed <;> simp), ?_⟩
    rw [Numeral.text_plain]
    cases pointed <;> simp
  case isFalse hscale =>
    have hfirst : digits.head? ≠ some '0' := by
      intro hfirst
      have := (hhead hfirst).2
      omega
    dsimp only
    split
    case isTrue hplaces =>
      have hbefore : digits.length - (-x.scale).toNat ≠ 0 := by omega
      have hbehind : digits.drop (digits.length - (-x.scale).toNat) ≠ [] := by
        rw [Ne, List.drop_eq_nil_iff]
        omega
      refine ⟨.plain (digits.take (digits.length - (-x.scale).toNat))
        (digits.drop (digits.length - (-x.scale).toNat)) (by simp [hsome, hbefore])
        (fun c hc => hdigits c (List.mem_of_mem_take hc)) (fun h => absurd h ?_)
        (fun c hc => hdigits c (List.mem_of_mem_drop hc)), ?_⟩
      · rwa [List.head?_take, if_neg hbefore]
      · rw [Numeral.text_plain, if_neg hbehind]
    case isFalse hplaces =>
      have hall : ∀ c ∈ Shortest.zeros ((-x.scale).toNat - digits.length) ++ digits,
          c.isDigit = true := by
        intro c hc
        rcases List.mem_append.1 hc with hc | hc
        · exact isDigit_of_mem_zeros hc
        · exact hdigits c hc
      refine ⟨.plain ['0'] (Shortest.zeros ((-x.scale).toNat - digits.length) ++ digits)
        (by simp) (by simp) (fun _ => rfl) hall, ?_⟩
      rw [Numeral.text_plain, if_neg (by simp [hsome])]
      rfl

/-- Digits with an exponent are the text of a number. -/
theorem exists_numeral_exponential (digits : Nat) (exponent : Int) :
    ∃ n : Numeral, Shortest.exponential (Nat.toDigits 10 digits) exponent = n.text := by
  have hdigits : ∀ c ∈ Nat.toDigits 10 digits, c.isDigit = true := fun _ => isDigit_of_mem_digits
  refine ⟨{
    whole := (Nat.toDigits 10 digits).take 1
    fraction := (Nat.toDigits 10 digits).drop 1
    exponent? := some (if exponent < 0 then '-' else '+', Nat.toDigits 10 exponent.natAbs)
    whole_ne_nil := by simp [Nat.toDigits_ne_nil]
    whole_isDigit := fun c hc => hdigits c (List.mem_of_mem_take hc)
    eq_zero_of_head? := ?_
    fraction_isDigit := fun c hc => hdigits c (List.mem_of_mem_drop hc)
    sign_eq := ?_
    exponent_ne_nil := by simp [Nat.toDigits_ne_nil]
    exponent_isDigit := ?_ }, ?_⟩
  · intro hhead
    cases htext : Nat.toDigits 10 digits with
    | nil => exact absurd htext Nat.toDigits_ne_nil
    | cons c cs =>
      rw [htext] at hhead
      cases hhead
      rfl
  · rintro e ⟨⟩
    dsimp only
    split <;> simp
  · rintro e ⟨⟩ c hc
    exact isDigit_of_mem_digits hc
  · have hlength : (Nat.toDigits 10 digits).length = 1 ↔ (Nat.toDigits 10 digits).drop 1 = [] := by
      have := Nat.length_toDigits_pos (b := 10) (n := digits)
      rw [List.drop_eq_nil_iff]
      omega
    have hmark : ∀ text : List Char,
        (if exponent < 0 then ['e', '-'] else ['e', '+']) ++ text =
          'e' :: (if exponent < 0 then '-' else '+') :: text := by
      intro text
      split <;> rfl
    simp only [Shortest.exponential, Numeral.text, Numeral.fractionText, Numeral.exponentText,
      if_congr hlength rfl rfl, List.append_assoc, hmark]

theorem exists_numeral_render (layout : Shortest.Layout) {x : Shortest.Digits}
    (hzero : x.digits = 0 → x.scale = 0) : ∃ n : Numeral, layout.render x = n.text := by
  unfold Shortest.Layout.render
  dsimp only
  split
  · exact exists_numeral_positional layout.pointed hzero
  · exact exists_numeral_exponential x.digits _

/-- The digits of a finite number are the text of a number behind its sign. -/
theorem exists_numeral_numberText (negative : Bool) (m : Nat) (q : Int) :
    ∃ n : Numeral, numberText (.finite negative m q) =
      (if negative then ['-'] else []) ++ n.text := by
  have htext : numberText (.finite negative m q) = (if negative then ['-'] else []) ++
      Shortest.Layout.scientific.render
        (if m = 0 then ⟨0, 0⟩ else Shortest.shortest Shortest.Layout.scientific.tie m q) :=
    String.toList_ofList
  rw [htext]
  by_cases hm : m = 0
  · rw [if_pos hm]
    rcases exists_numeral_render .scientific (x := ⟨0, 0⟩) (fun _ => rfl) with ⟨n, hn⟩
    exact ⟨n, by rw [hn]⟩
  · rw [if_neg hm]
    have hdigits := Shortest.digits_shortest_ne_zero Shortest.Layout.scientific.tie hm q
    rcases exists_numeral_render .scientific (fun h => absurd h hdigits) with ⟨n, hn⟩
    exact ⟨n, by rw [hn]⟩

/-- What the text of a number says. -/
def numberTold (x : Binary64) : Json :=
  match readNumber (numberText x) with
  | some (json, _) => json
  | none => .null

/-- The text of a number is read to its end, wherever it stands. -/
theorem readNumber_numberText (negative : Bool) (m : Nat) (q : Int) {rest : List Char}
    (hends : Ends rest) :
    readNumber (numberText (.finite negative m q) ++ rest) =
      some (numberTold (.finite negative m q), rest) := by
  rcases exists_numeral_numberText negative m q with ⟨n, hn⟩
  have halone : readNumber ((if negative then ['-'] else []) ++ n.text ++ []) =
      some (n.value negative, []) := n.readNumber_text negative rfl
  rw [List.append_nil] at halone
  rw [numberTold, hn, halone]
  exact n.readNumber_text negative hends

end Json
end RecordFlow
