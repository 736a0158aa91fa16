import Mathlib.Data.Bool.AllAny
import PatronGateway.Json.Reader
import PatronGateway.Json.Writer
import PatronGateway.Proofs.Text.Utf8

/-!
# Documents are read back

What is written for a document is read as this document, whatever its strings hold and however
deep it is.  A number has to be one that the grammar can write: with digits where the grammar
asks for them, and without a zero before others.

* `readPieces_escapeChar` is the step of the round trip of strings: one character.
* `Numeral.IsProper` and `Document.IsProper` say which numbers and documents are meant.
* `Document.reads_all` is the round trip of documents by the number of steps that reading is
  allowed, and `Document.read?_write` is the statement about texts.
  `Document.readBytes?_encode` takes it from texts to their bytes.
-/

namespace PatronGateway
namespace Json

open Text (Digit NoDigitAhead takeDigits takeDigits_append)

section Strings

/-- The escape of a control character is read back. -/
theorem digitsIn?_hexChar : ∀ n < 0x20,
    Text.digitsIn? 16 ['0', '0', hexChar (n / 16), hexChar (n % 16)] = some n := by
  decide

theorem readPieces_control {c : Char} (h : c.toNat < 0x20) (reversed : List Piece)
    (rest : List Char) :
    readPieces reversed
        ('\\' :: 'u' :: '0' :: '0' :: hexChar (c.toNat / 16) :: hexChar (c.toNat % 16) :: rest) =
      readPieces (.char c :: reversed) rest := by
  have hunit : Piece.ofUnit c.toNat = .char c := by
    unfold Piece.ofUnit
    rw [if_neg (by omega), Char.ofNat_toNat]
  rw [readPieces, digitsIn?_hexChar c.toNat h]
  dsimp only
  rw [hunit]

theorem readPieces_plain {c : Char} (hquote : c ≠ '"') (hslash : c ≠ '\\')
    (hcontrol : ¬ c.toNat < 0x20) (reversed : List Piece) (rest : List Char) :
    readPieces reversed (c :: rest) = readPieces (.char c :: reversed) rest := by
  -- what is neither a quote nor a backslash matches the last pattern only
  rw [readPieces.eq_def]
  split
  · next heq => cases heq
  · next heq => exact absurd (List.cons.inj heq).1 hquote
  · next heq => exact absurd (List.cons.inj heq).1 hslash
  · next heq => exact absurd (List.cons.inj heq).1 hslash
  · next heq =>
      obtain ⟨rfl, rfl⟩ := List.cons.inj heq
      rw [if_neg (not_or.mpr ⟨hcontrol, hslash⟩)]

/-- A character is read back, whatever follows it. -/
theorem readPieces_escapeChar (c : Char) (reversed : List Piece) (rest : List Char) :
    readPieces reversed (escapeChar c ++ rest) = readPieces (.char c :: reversed) rest := by
  unfold escapeChar
  split
  · rfl
  · rfl
  · rfl
  · rfl
  · rfl
  · rfl
  · rfl
  · next hquote hslash _ _ _ _ _ =>
      split
      case isTrue hcontrol => exact readPieces_control hcontrol reversed rest
      case isFalse hcontrol => exact readPieces_plain hquote hslash hcontrol reversed rest

/-- The characters of a string are read back, in reverse. -/
theorem readPieces_flatMap (cs : List Char) (reversed : List Piece) (rest : List Char) :
    readPieces reversed (cs.flatMap escapeChar ++ '"' :: rest) =
      some (cs.reverse.map .char ++ reversed, rest) := by
  induction cs generalizing reversed with
  | nil => rfl
  | cons c cs ih =>
      rw [List.flatMap_cons, List.append_assoc, readPieces_escapeChar, ih]
      simp

theorem joinPieces_map (cs joined : List Char) :
    joinPieces joined (cs.map .char) = some (cs.reverse ++ joined) := by
  induction cs generalizing joined with
  | nil => rfl
  | cons c cs ih =>
      rw [List.map_cons, joinPieces, ih]
      simp

/-- A string is read back, and so is one without a text. -/
theorem readText_quoted? (s : Option String) (rest : List Char) :
    ∃ inner, quoted? s = '"' :: inner ∧ readText (inner ++ rest) = some (s, rest) := by
  cases s with
  | none => exact ⟨_, rfl, rfl⟩
  | some s =>
      refine ⟨s.toList.flatMap escapeChar ++ ['"'], rfl, ?_⟩
      have hpieces := readPieces_flatMap s.toList [] rest
      unfold readText
      rw [List.append_assoc, List.singleton_append, hpieces, List.append_nil]
      dsimp only
      rw [joinPieces_map]
      simp

end Strings

/-- What may follow a value inside of a document, or nothing. -/
def Ends (rest : List Char) : Prop := ∀ c after, rest = c :: after → c ∈ [',', ']', '\x7d']

section Numbers

/-- A number that the grammar can write. -/
structure Numeral.IsProper (n : Numeral) : Prop where
  whole_ne_nil : n.whole ≠ []
  no_leading_zero : ∀ ds, n.whole = 0 :: ds → ds = []
  fraction_ne_nil : n.fraction ≠ some []
  exponent_ne_nil : ∀ e, n.exponent = some e → e.digits ≠ []

variable {rest : List Char}

theorem Ends.noDigitAhead (h : Ends rest) : NoDigitAhead rest := by
  have hmarks : ∀ c ∈ [',', ']', '\x7d'], Digit.ofChar? c = none :=
    List.all_iff_forall_prop.mp (by decide)
  cases rest with
  | nil => trivial
  | cons c after => exact hmarks c (h c after rfl)

/-- What stands behind the digits before the point of a number. -/
def exponentChars : Option Exponent → List Char
  | some e => 'e' :: (if e.negative then '-' else '+') :: e.digits.map Digit.toChar
  | none => []

theorem readExponent_exponentChars {exponent : Option Exponent}
    (hne : ∀ e, exponent = some e → e.digits ≠ []) (h : Ends rest) :
    readExponent (exponentChars exponent ++ rest) = some (exponent, rest) := by
  cases exponent with
  | none =>
      -- no value is followed by a letter, so nothing can be taken for an exponent
      have hmarks : ∀ c ∈ [',', ']', '\x7d'], c ≠ 'e' ∧ c ≠ 'E' :=
        List.all_iff_forall_prop.mp (by decide)
      unfold exponentChars readExponent
      split
      · next heq => exact absurd rfl (hmarks _ (h _ _ heq)).1
      · next heq => exact absurd rfl (hmarks _ (h _ _ heq)).2
      · rfl
  | some e =>
      obtain ⟨negative, digits⟩ := e
      have hdigits := takeDigits_append digits h.noDigitAhead
      obtain ⟨d, ds, rfl⟩ := List.exists_cons_of_ne_nil (hne _ rfl)
      have hpower : readPower ((if negative then '-' else '+') ::
          ((d :: ds).map Digit.toChar ++ rest)) = some (some ⟨negative, d :: ds⟩, rest) := by
        cases negative <;> simp only [readPower, if_true, Bool.false_eq_true, if_false, hdigits]
      exact hpower

theorem noDigitAhead_exponentChars (exponent : Option Exponent) (h : Ends rest) :
    NoDigitAhead (exponentChars exponent ++ rest) := by
  cases exponent with
  | none => exact h.noDigitAhead
  | some e => exact rfl

/-- The fraction of a number with its point. -/
def fractionChars : Option (List Digit) → List Char
  | some ds => '.' :: ds.map Digit.toChar
  | none => []

theorem readFraction_fractionChars {fraction : Option (List Digit)} (hne : fraction ≠ some [])
    {exponent : Option Exponent} (h : Ends rest) :
    readFraction (fractionChars fraction ++ (exponentChars exponent ++ rest)) =
      some (fraction, exponentChars exponent ++ rest) := by
  cases fraction with
  | none =>
      have hpoint : ∀ after, exponentChars exponent ++ rest ≠ '.' :: after := by
        intro after heq
        cases exponent with
        | none =>
            have hmarks : ∀ c ∈ [',', ']', '\x7d'], c ≠ '.' :=
              List.all_iff_forall_prop.mp (by decide)
            exact hmarks '.' (h '.' after heq) rfl
        | some e => cases heq
      unfold fractionChars readFraction
      rw [List.nil_append]
      split
      · next heq => exact absurd heq (hpoint _)
      · rfl
  | some ds =>
      obtain ⟨d, ds, rfl⟩ := List.exists_cons_of_ne_nil (fun hnil => hne (congrArg some hnil))
      have hdigits := takeDigits_append (d :: ds) (noDigitAhead_exponentChars exponent h)
      simp only [fractionChars, List.cons_append, readFraction, hdigits]

theorem noDigitAhead_fractionChars {fraction : Option (List Digit)} {exponent : Option Exponent}
    (h : Ends rest) :
    NoDigitAhead (fractionChars fraction ++ (exponentChars exponent ++ rest)) := by
  cases fraction with
  | none => exact noDigitAhead_exponentChars exponent h
  | some ds => exact rfl

theorem render_eq (n : Numeral) :
    n.render = (if n.negative then ['-'] else []) ++
      (n.whole.map Digit.toChar ++ (fractionChars n.fraction ++ exponentChars n.exponent)) := by
  have hassoc (sign whole fraction exponent : List Char) :
      sign ++ whole ++ fraction ++ exponent = sign ++ (whole ++ (fraction ++ exponent)) := by
    simp only [List.append_assoc]
  exact hassoc _ _ _ _

/-- A number is read back behind its sign. -/
theorem readNumeral_render {n : Numeral} (hn : n.IsProper) (h : Ends rest) :
    readNumeral n.negative (n.whole.map Digit.toChar ++
      (fractionChars n.fraction ++ (exponentChars n.exponent ++ rest))) = some (n, rest) := by
  obtain ⟨negative, whole, fraction, exponent⟩ := n
  obtain ⟨hwhole, hzero, hfraction, hexponent⟩ := hn
  dsimp only at hwhole hzero hfraction hexponent ⊢
  obtain ⟨d, ds, rfl⟩ := List.exists_cons_of_ne_nil hwhole
  have hleading : ¬ (d = 0 ∧ ds ≠ []) := by
    rintro ⟨rfl, hne⟩
    exact hne (hzero ds rfl)
  unfold readNumeral
  rw [takeDigits_append _ (noDigitAhead_fractionChars h)]
  dsimp only
  rw [if_neg hleading, readFraction_fractionChars hfraction h]
  dsimp only
  rw [readExponent_exponentChars hexponent h]

end Numbers

namespace Document

mutual

/-- A document whose numbers the grammar can write. -/
def IsProper : Document → Prop
  | .number n => n.IsProper
  | .array items => AreProper items
  | .object members => HaveProper members
  | _ => True

/-- Several documents of this kind. -/
def AreProper : List Document → Prop
  | [] => True
  | d :: rest => d.IsProper ∧ AreProper rest

/-- Several members with values of this kind. -/
def HaveProper : List (Option String × Document) → Prop
  | [] => True
  | m :: rest => m.2.IsProper ∧ HaveProper rest

end

/-- What is written for a value begins with a character of the value. -/
def BeginsValue (c : Char) : Prop := isSpace c = false ∧ c ≠ ']' ∧ c ≠ '\x7d'

instance (c : Char) : Decidable (BeginsValue c) := inferInstanceAs (Decidable (_ ∧ _ ∧ _))

theorem beginsValue_toChar : ∀ d : Digit, BeginsValue d.toChar := by
  decide

theorem exists_cons_quoted? (s : Option String) : ∃ inner, quoted? s = '"' :: inner := by
  obtain ⟨inner, hinner, -⟩ := readText_quoted? s []
  exact ⟨inner, hinner⟩

theorem exists_cons_render {d : Document} (h : d.IsProper) :
    ∃ c cs, d.render = c :: cs ∧ BeginsValue c := by
  cases d with
  | null => exact ⟨_, _, by rw [render], by decide⟩
  | bool b => cases b <;> exact ⟨_, _, by rw [render], by decide⟩
  | number n =>
      rw [IsProper] at h
      rw [render, render_eq]
      obtain ⟨d, ds, hwhole⟩ := List.exists_cons_of_ne_nil h.whole_ne_nil
      cases n.negative
      · rw [hwhole]
        exact ⟨_, _, rfl, beginsValue_toChar d⟩
      · exact ⟨_, _, rfl, by decide⟩
  | text s =>
      obtain ⟨inner, hinner⟩ := exists_cons_quoted? s
      exact ⟨'"', inner, by rw [render, hinner], by decide⟩
  | array items => exact ⟨_, _, by rw [render]; rfl, by decide⟩
  | object members => exact ⟨_, _, by rw [render]; rfl, by decide⟩

theorem skipSpace_cons {c : Char} (h : isSpace c = false) (rest : List Char) :
    skipSpace (c :: rest) = c :: rest := by
  unfold skipSpace
  rw [List.dropWhile_cons, if_neg (by rw [h]; decide)]

theorem renderItems_cons_cons (d d' : Document) (items : List Document) :
    renderItems (d :: d' :: items) = d.render ++ ',' :: renderItems (d' :: items) := by
  rw [renderItems]
  exact List.cons_ne_nil d' items

theorem renderMembers_cons_cons (m m' : Option String × Document)
    (members : List (Option String × Document)) :
    renderMembers (m :: m' :: members) =
      quoted? m.1 ++ ':' :: m.2.render ++ ',' :: renderMembers (m' :: members) := by
  rw [renderMembers]
  exact List.cons_ne_nil m' members

theorem exists_cons_renderItems {d : Document} {items : List Document}
    (h : AreProper (d :: items)) :
    ∃ c cs, renderItems (d :: items) = c :: cs ∧ BeginsValue c := by
  rw [AreProper] at h
  obtain ⟨c, cs, hd, hc⟩ := exists_cons_render h.1
  cases items with
  | nil => exact ⟨c, cs, by rw [renderItems, hd], hc⟩
  | cons d' items => exact ⟨c, _, by rw [renderItems_cons_cons, hd, List.cons_append], hc⟩

theorem exists_cons_renderMembers (m : Option String × Document)
    (members : List (Option String × Document)) :
    ∃ cs, renderMembers (m :: members) = '"' :: cs := by
  obtain ⟨inner, hinner⟩ := exists_cons_quoted? m.1
  cases members with
  | nil => exact ⟨_, by rw [renderMembers, hinner, List.cons_append]⟩
  | cons m' members =>
      exact ⟨_, by rw [renderMembers_cons_cons, hinner, List.cons_append, List.cons_append]⟩

section Reading

variable {fuel : Nat} {c : Char}

/-- A number without a sign is none of the other values. -/
theorem readValue_digit (d : Digit) (cs : List Char) :
    readValue (fuel + 1) (d.toChar :: cs) =
      match readNumeral false (d.toChar :: cs) with
      | some (n, rest) => some (.number n, rest)
      | none => none := by
  have hdigits : ∀ d : Digit,
      d.toChar ∈ ['0', '1', '2', '3', '4', '5', '6', '7', '8', '9'] := by decide
  have hdigit := hdigits d
  generalize d.toChar = c at hdigit ⊢
  simp only [List.mem_cons, List.not_mem_nil, or_false] at hdigit
  rcases hdigit with rfl | rfl | rfl | rfl | rfl | rfl | rfl | rfl | rfl | rfl <;> rfl

/-- A number with a sign. -/
theorem readValue_minus (cs : List Char) :
    readValue (fuel + 1) ('-' :: cs) =
      (readNumeral true cs).map fun read => (.number read.1, read.2) := by
  rw [readValue]
  cases readNumeral true cs <;> rfl

/-- A string. -/
theorem readValue_quote (cs : List Char) :
    readValue (fuel + 1) ('"' :: cs) =
      (readText cs).map fun read => (.text read.1, read.2) := by
  rw [readValue]
  cases readText cs <;> rfl

/-- A number is read back with its sign. -/
theorem readValue_number {n : Numeral} {rest : List Char} (hn : n.IsProper) (h : Ends rest) :
    readValue (fuel + 1) (n.render ++ rest) = some (.number n, rest) := by
  have hread := readNumeral_render hn h
  rw [render_eq]
  cases hsign : n.negative with
  | true =>
      rw [hsign] at hread
      simp only [if_true, List.append_assoc, List.nil_append, List.cons_append, readValue_minus,
        hread, Option.map_some]
  | false =>
      rw [hsign] at hread
      obtain ⟨d, ds, hwhole⟩ := List.exists_cons_of_ne_nil hn.whole_ne_nil
      rw [hwhole, List.map_cons, List.cons_append] at hread
      simp only [Bool.false_eq_true, if_false, List.nil_append, List.append_assoc, hwhole,
        List.map_cons, List.cons_append, readValue_digit, hread]

/-- An array that is not closed at once has items. -/
theorem readValue_array (hc : BeginsValue c) (cs : List Char) :
    readValue (fuel + 1) ('[' :: c :: cs) =
      (readItems fuel (c :: cs)).map fun read => (.array read.1, read.2) := by
  rw [readValue, skipSpace_cons hc.1]
  split
  · next heq => exact absurd (List.cons.inj heq).1 hc.2.1
  · cases readItems fuel (c :: cs) <;> rfl

/-- Members begin with a name. -/
theorem readValue_object (cs : List Char) :
    readValue (fuel + 1) ('\x7b' :: '"' :: cs) =
      (readMembers fuel ('"' :: cs)).map fun read => (.object read.1, read.2) := by
  rw [readValue, skipSpace_cons (by decide)]
  cases hread : readMembers fuel ('"' :: cs) <;> simp [hread]

variable {cs after rest : List Char} {d : Document} {name : Option String}

/-- The last item of an array. -/
theorem readItems_last (hread : readValue fuel cs = some (d, ']' :: rest)) :
    readItems (fuel + 1) cs = some ([d], rest) := by
  rw [readItems, hread]
  rfl

/-- An item of an array with others behind it. -/
theorem readItems_comma (hread : readValue fuel cs = some (d, ',' :: c :: rest))
    (hc : isSpace c = false) :
    readItems (fuel + 1) cs =
      (readItems fuel (c :: rest)).map fun read => (d :: read.1, read.2) := by
  rw [readItems, hread]
  have hcomma : skipSpace (',' :: c :: rest) = ',' :: c :: rest := skipSpace_cons (by decide) _
  simp only [hcomma, skipSpace_cons hc]
  cases readItems fuel (c :: rest) <;> rfl

/-- The last member of an object. -/
theorem readMembers_last (hname : readText cs = some (name, ':' :: c :: after))
    (hc : isSpace c = false) (hread : readValue fuel (c :: after) = some (d, '\x7d' :: rest)) :
    readMembers (fuel + 1) ('"' :: cs) = some ([(name, d)], rest) := by
  have hcolon : skipSpace (':' :: c :: after) = ':' :: c :: after := skipSpace_cons (by decide) _
  have hbrace : skipSpace ('\x7d' :: rest) = '\x7d' :: rest := skipSpace_cons (by decide) _
  rw [readMembers, hname]
  simp only [hcolon, skipSpace_cons hc, hread, hbrace]

/-- A member of an object with others behind it. -/
theorem readMembers_comma (hname : readText cs = some (name, ':' :: c :: after))
    (hc : isSpace c = false)
    (hread : readValue fuel (c :: after) = some (d, ',' :: '"' :: rest)) :
    readMembers (fuel + 1) ('"' :: cs) =
      (readMembers fuel ('"' :: rest)).map fun read => ((name, d) :: read.1, read.2) := by
  have hcolon : skipSpace (':' :: c :: after) = ':' :: c :: after := skipSpace_cons (by decide) _
  have hcomma : skipSpace (',' :: '"' :: rest) = ',' :: '"' :: rest :=
    skipSpace_cons (by decide) _
  have hquote : skipSpace ('"' :: rest) = '"' :: rest := skipSpace_cons (by decide) _
  rw [readMembers, hname]
  simp only [hcolon, skipSpace_cons hc, hread, hcomma, hquote]
  cases readMembers fuel ('"' :: rest) <;> rfl

end Reading

/-! ## Reading with enough steps

Each bracket and each comma takes one step of its own besides those of what it encloses, so twice
the length of a text is enough. -/

/-- Values are read back within a number of steps. -/
def ReadsValue (fuel : Nat) : Prop :=
  ∀ (d : Document) (rest : List Char), d.IsProper → Ends rest → 2 * d.render.length ≤ fuel →
    readValue fuel (d.render ++ rest) = some (d, rest)

/-- The items of an array are read back within a number of steps. -/
def ReadsItems (fuel : Nat) : Prop :=
  ∀ (d : Document) (items : List Document) (rest : List Char), AreProper (d :: items) →
    2 * (renderItems (d :: items)).length + 1 ≤ fuel →
    readItems fuel (renderItems (d :: items) ++ ']' :: rest) = some (d :: items, rest)

/-- The members of an object are read back within a number of steps. -/
def ReadsMembers (fuel : Nat) : Prop :=
  ∀ (m : Option String × Document) (members : List (Option String × Document))
    (rest : List Char), HaveProper (m :: members) →
    2 * (renderMembers (m :: members)).length + 1 ≤ fuel →
    readMembers fuel (renderMembers (m :: members) ++ '\x7d' :: rest) =
      some (m :: members, rest)

theorem ends_cons {c : Char} (hc : c ∈ [',', ']', '\x7d']) (rest : List Char) :
    Ends (c :: rest) := by
  intro d after heq
  rw [← (List.cons.inj heq).1]
  exact hc

section Steps

variable {fuel : Nat}

theorem readsValue_succ (hitems : ReadsItems fuel) (hmembers : ReadsMembers fuel) :
    ReadsValue (fuel + 1) := by
  intro d rest hproper hends hfuel
  cases d with
  | null =>
      rw [render]
      rfl
  | bool b => cases b <;> (rw [render]; rfl)
  | number n =>
      rw [IsProper] at hproper
      rw [render]
      exact readValue_number hproper hends
  | text s =>
      obtain ⟨inner, hinner, hread⟩ := readText_quoted? s rest
      rw [render, hinner, List.cons_append, readValue_quote, hread, Option.map_some]
  | array items =>
      cases items with
      | nil =>
          rw [render, renderItems]
          rfl
      | cons d items =>
          rw [IsProper] at hproper
          rw [render, List.length_append, List.length_cons, List.length_singleton] at hfuel
          have hread := hitems d items rest hproper (by omega)
          obtain ⟨c, cs, hitems', hc⟩ := exists_cons_renderItems hproper
          rw [render, List.append_assoc, List.cons_append, List.singleton_append]
          rw [hitems', List.cons_append] at hread ⊢
          rw [readValue_array hc, hread]
          rfl
  | object members =>
      cases members with
      | nil =>
          rw [render, renderMembers]
          rfl
      | cons m members =>
          rw [IsProper] at hproper
          rw [render, List.length_append, List.length_cons, List.length_singleton] at hfuel
          have hread := hmembers m members rest hproper (by omega)
          obtain ⟨cs, hmembers'⟩ := exists_cons_renderMembers m members
          rw [render, List.append_assoc, List.cons_append, List.singleton_append]
          rw [hmembers', List.cons_append] at hread ⊢
          rw [readValue_object, hread]
          rfl

theorem readsItems_succ (hvalue : ReadsValue fuel) (hitems : ReadsItems fuel) :
    ReadsItems (fuel + 1) := by
  intro d items rest hproper hfuel
  rw [AreProper] at hproper
  cases items with
  | nil =>
      rw [renderItems] at hfuel ⊢
      exact readItems_last (hvalue d (']' :: rest) hproper.1 (ends_cons (by decide) rest)
        (by omega))
  | cons d' items =>
      rw [renderItems_cons_cons, List.length_append, List.length_cons] at hfuel
      obtain ⟨c, cs, hcs, hc⟩ := exists_cons_renderItems hproper.2
      have hrest := hitems d' items rest hproper.2 (by omega)
      have hread := hvalue d (',' :: (renderItems (d' :: items) ++ ']' :: rest)) hproper.1
        (ends_cons (by decide) _) (by omega)
      rw [renderItems_cons_cons, List.append_assoc, List.cons_append]
      rw [hcs, List.cons_append] at hread hrest ⊢
      rw [readItems_comma hread hc.1, hrest]
      rfl

theorem readsMembers_succ (hvalue : ReadsValue fuel) (hmembers : ReadsMembers fuel) :
    ReadsMembers (fuel + 1) := by
  intro m members rest hproper hfuel
  obtain ⟨name, d⟩ := m
  rw [HaveProper] at hproper
  obtain ⟨c, cs, hcs, hc⟩ := exists_cons_render hproper.1
  cases members with
  | nil =>
      rw [renderMembers] at hfuel ⊢
      dsimp only at hfuel hcs ⊢
      rw [List.length_append, List.length_cons] at hfuel
      have hread := hvalue d ('\x7d' :: rest) hproper.1 (ends_cons (by decide) rest) (by omega)
      obtain ⟨inner, hinner, hname⟩ := readText_quoted? name (':' :: (d.render ++ '\x7d' :: rest))
      rw [hinner, List.append_assoc, List.cons_append, List.cons_append]
      rw [hcs, List.cons_append] at hread hname ⊢
      exact readMembers_last hname hc.1 hread
  | cons m' members =>
      rw [renderMembers_cons_cons] at hfuel ⊢
      dsimp only at hfuel hcs ⊢
      rw [List.length_append, List.length_append, List.length_cons, List.length_cons] at hfuel
      have hrest := hmembers m' members rest hproper.2 (by omega)
      have hread := hvalue d (',' :: (renderMembers (m' :: members) ++ '\x7d' :: rest)) hproper.1
        (ends_cons (by decide) _) (by omega)
      obtain ⟨inner, hinner, hname⟩ := readText_quoted? name
        (':' :: (d.render ++ ',' :: (renderMembers (m' :: members) ++ '\x7d' :: rest)))
      obtain ⟨cs', hcs'⟩ := exists_cons_renderMembers m' members
      rw [hinner]
      simp only [List.append_assoc, List.cons_append]
      rw [hcs', List.cons_append] at hread hrest hname ⊢
      rw [hcs, List.cons_append] at hread hname ⊢
      rw [readMembers_comma hname hc.1 hread, hrest]
      rfl

theorem reads_all (fuel : Nat) : ReadsValue fuel ∧ ReadsItems fuel ∧ ReadsMembers fuel := by
  -- the three statements need each other: a value spends one step before its items are read, and
  -- the items spend one before their first value
  induction fuel with
  | zero =>
      refine ⟨fun d rest hproper _ hfuel => ?_, fun d items rest _ hfuel => ?_,
        fun m members rest _ hfuel => ?_⟩
      · obtain ⟨c, cs, hd, -⟩ := exists_cons_render hproper
        rw [hd, List.length_cons] at hfuel
        omega
      · omega
      · omega
  | succ fuel ih =>
      obtain ⟨hvalue, hitems, hmembers⟩ := ih
      exact ⟨readsValue_succ hitems hmembers, readsItems_succ hvalue hitems,
        readsMembers_succ hvalue hmembers⟩

end Steps

/-! ## Texts and bytes -/

/-- What is written for a document is read as this document. -/
theorem read?_write {d : Document} (h : d.IsProper) : Document.read? d.write = some d := by
  obtain ⟨c, cs, hd, hc⟩ := exists_cons_render h
  have hskip : skipSpace d.render = d.render := by rw [hd, skipSpace_cons hc.1]
  have hends : Ends [] := fun c after heq => by cases heq
  have hread := (reads_all (2 * d.render.length + 2)).1 d [] h hends (by omega)
  rw [List.append_nil] at hread
  unfold Document.read? readAll? write
  rw [String.toList_ofList, hskip, hread]
  rfl

/-- A record is as proper as what its members hold. -/
theorem isProper_record {members : List (String × Document)} (h : ∀ m ∈ members, m.2.IsProper) :
    (record members).IsProper := by
  unfold record
  rw [IsProper]
  induction members with
  | nil => rw [List.map_nil, HaveProper]; trivial
  | cons m members ih =>
      rw [List.forall_mem_cons] at h
      rw [List.map_cons, HaveProper]
      exact ⟨h.1, ih h.2⟩

theorem isProper_ofString (s : String) : (ofString s).IsProper := by
  simp [ofString, IsProper]

/-- The bytes of a text are read as the text is. -/
theorem readBytes?_encode (text : String) :
    readBytes? (Text.Utf8.encode text) = Document.read? text := by
  have hall : (text.toList.map some).all Option.isSome = true := by simp
  have hchars : (text.toList.map some).filterMap id = text.toList := by
    rw [List.filterMap_map]
    exact List.filterMap_some
  unfold readBytes? Document.read?
  rw [Text.Utf8.scan_encode]
  dsimp only
  rw [if_pos hall, hchars]

end Document

end Json
end PatronGateway
