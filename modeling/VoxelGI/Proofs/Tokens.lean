import VoxelGI.Document.Schema
import VoxelGI.Proofs.Numerals

/-! Written scalars are read back: flags, counts, singles, quoted texts and overlays. Each is read up
to its end and no further, whatever comma, bracket or end of text comes next. -/
namespace VoxelGI.Document

inductive Ends : List Char → Prop where
  | nothing : Ends []
  | comma (rest : List Char) : Ends (',' :: rest)
  | closed (rest : List Char) : Ends (')' :: rest)

theorem Ends.stops {rest : List Char} (h : Ends rest) (p : Char → Bool) (comma : p ',' = false)
    (closed : p ')' = false) : rest.head?.any p = false := by
  cases h with
  | nothing => rfl
  | comma rest => exact comma
  | closed rest => exact closed

def isOpener (c : Char) : Bool := !isSpace c && c != '/' && c != ')' && c != ']'

def Opens (cs : List Char) : Prop := cs.head?.any isOpener = true

theorem Opens.append {cs : List Char} (h : Opens cs) (rest : List Char) : Opens (cs ++ rest) := by
  cases cs with
  | nil => cases h
  | cons c cs => exact h

theorem Opens.head?_ne {cs : List Char} (h : Opens cs) {c : Char} (closes : isOpener c = false) :
    cs.head? ≠ some c := by
  intro head
  rw [Opens, head, Option.any_some, closes] at h
  cases h

/-- A reader takes a text, whatever may come after it, and gives a value for it. -/
structure Reads (r : Reader α) (text : List Char) (a : α) : Prop where
  opens : Opens text
  back : ∀ rest, Ends rest → r (text ++ rest) = .ok (a, rest)

theorem bind_ok {r : Reader α} {f : α → Reader β} {a : α} {cs rest : List Char}
    (h : r cs = .ok (a, rest)) : (r >>= f) cs = f a rest := by
  show (r cs >>= fun pair => f pair.1 pair.2) = _
  rw [h]
  rfl

theorem Reads.map {r : Reader α} {text : List Char} {a : α} (h : Reads r text a) (f : α → β) :
    Reads (do return f (← r)) text (f a) where
  opens := h.opens
  back rest ends := bind_ok (h.back rest ends)

theorem startsWord_append (word : List Char) {rest : List Char} (ends : Ends rest) :
    startsWord word (word ++ rest) = true := by
  rw [startsWord, List.drop_left, ends.stops Name.isRest rfl rfl]
  simp

theorem acceptWord_append (word : List Char) {rest : List Char} (ends : Ends rest) :
    acceptWord word (word ++ rest) = .ok (true, rest) := by
  rw [acceptWord, startsWord_append word ends, List.drop_left]
  rfl

theorem reads_flag (b : Bool) (l : Lines) : Reads flag (writeFlag b l) b where
  opens := by cases b <;> rfl
  back rest ends := by
    cases b with
    | true => exact bind_ok (acceptWord_append ['t', 'r', 'u', 'e'] ends)
    | false =>
      have not_true : acceptWord ['t', 'r', 'u', 'e'] (['f', 'a', 'l', 's', 'e'] ++ rest)
          = .ok (false, ['f', 'a', 'l', 's', 'e'] ++ rest) := rfl
      exact (bind_ok not_true).trans (bind_ok (acceptWord_append ['f', 'a', 'l', 's', 'e'] ends))

section Counts

theorem hexDigit?_digit {c : Char} (h : c.isDigit = true) :
    hexDigit? c = some (c.toNat - '0'.toNat) := if_pos h

theorem isIntChar_digit {c : Char} (h : c.isDigit = true) : isIntChar c = true := by
  simp [isIntChar, hexDigit?_digit h]

theorem ne_of_isDigit {c d : Char} (h : c.isDigit = true) (other : d.isDigit = false) : c ≠ d := by
  rintro rfl
  rw [h] at other
  cases other

theorem takeBase_digits {d : Char} {ds rest : List Char} (digits : AllDigits (d :: ds))
    (ends : Ends rest) : takeBase (d :: ds ++ rest) = (10, d :: ds ++ rest) := by
  have no_letter (c : Char) (letter : c.isDigit = false ∧ c ≠ ',' ∧ c ≠ ')') (tail : List Char) :
      ds ++ rest ≠ c :: tail := by
    intro shape
    cases ds with
    | nil =>
      have no_end := ends.stops (· == c)
        (beq_false_of_ne letter.2.1.symm) (beq_false_of_ne letter.2.2.symm)
      rw [List.nil_append] at shape
      simp [shape] at no_end
    | cons d' ds =>
      have digit : d'.isDigit = true := digits d' (by simp)
      exact ne_of_isDigit digit letter.1 (List.cons.inj shape).1
  unfold takeBase
  split
  next tail shape => exact absurd (List.cons.inj shape).2 (no_letter 'b' (by decide) tail)
  next tail shape => exact absurd (List.cons.inj shape).2 (no_letter 'o' (by decide) tail)
  next tail shape => exact absurd (List.cons.inj shape).2 (no_letter 'x' (by decide) tail)
  next => rfl

theorem le_ofDigitChars (ds : List Char) (sum : Nat) : sum ≤ Nat.ofDigitChars 10 ds sum := by
  rw [Nat.ofDigitChars_eq_ofDigitChars_zero]
  exact Nat.le_add_right_of_le (Nat.le_mul_of_pos_left sum (Nat.pow_pos (by decide)))

theorem accumulate_digits (t : IntType) (after : List Char) (zero_fits : t.least ≤ 0)
    {ds : List Char} (digits : AllDigits ds) (sum : Nat)
    (fits : (Nat.ofDigitChars 10 ds sum : Int) ≤ t.greatest) :
    accumulate t 10 false after sum ds = .ok (Nat.ofDigitChars 10 ds sum : Int) := by
  induction ds generalizing sum with
  | nil => rfl
  | cons c ds ih =>
    have digit : c.isDigit = true := digits c List.mem_cons_self
    have bounds := Char.isDigit_iff_toNat.mp digit
    let next := 10 * sum + (c.toNat - '0'.toNat)
    rw [Nat.ofDigitChars_cons] at fits ⊢
    -- The sum only grows, so each value on the way fits if the last one does.
    have below : (next : Int) ≤ t.greatest :=
      (Int.ofNat_le.mpr (le_ofDigitChars ds next)).trans fits
    have shifted_fits : t.contains (sum * (10 : Nat)) = true := by
      simp only [IntType.contains, decide_eq_true_eq]
      omega
    have next_fits : t.contains next = true := by
      simp only [IntType.contains, decide_eq_true_eq]
      omega
    have value : (hexDigit? c).filter (· < 10) = some (c.toNat - '0'.toNat) := by
      rw [hexDigit?_digit digit, Option.filter_some, if_pos]
      simp only [decide_eq_true_eq]
      exact Nat.lt_of_le_of_lt (Nat.sub_le_sub_right bounds.2 _) (by decide)
    have next_sum : (sum * (10 : Nat) + (c.toNat - '0'.toNat : Nat) : Int) = next := by omega
    rw [accumulate, if_neg (ne_of_isDigit digit rfl)]
    simp only [shifted_fits, value, next_sum, next_fits, Bool.not_true, Bool.false_eq_true, if_false]
    exact ih (fun c mem => digits c (List.mem_cons_of_mem _ mem)) next fits

section

variable {ds rest : List Char} (digits : AllDigits ds) (some_digit : ds ≠ []) (ends : Ends rest)

include digits some_digit ends

theorem intDigits_digits (t : IntType) (zero_fits : t.least ≤ 0)
    (fits : (Decimal.ofDigits ds : Int) ≤ t.greatest) :
    intDigits t false (ds ++ rest) = .ok ((Decimal.ofDigits ds : Int), rest) := by
  obtain ⟨d, ds, rfl⟩ := List.exists_cons_of_ne_nil some_digit
  have int_chars : ∀ c ∈ d :: ds, isIntChar c = true := fun c mem => isIntChar_digit (digits c mem)
  have stops := ends.stops isIntChar rfl rfl
  have no_underscore : d ≠ '_' := ne_of_isDigit (digits d List.mem_cons_self) rfl
  have sum : accumulate t 10 false rest 0 (d :: ds) = .ok ↑(Decimal.ofDigits (d :: ds)) :=
    accumulate_digits t rest zero_fits digits 0 fits
  rw [intDigits, takeBase_digits digits ends]
  simp only [takeWhile_run int_chars stops, dropWhile_run int_chars stops]
  simp [no_underscore, sum, Except.map]

theorem integer_digits (plain : Bool → IntType) (zero_fits : (plain false).least ≤ 0)
    (fits : (Decimal.ofDigits ds : Int) ≤ (plain false).greatest) :
    integer plain (ds ++ rest) = .ok (.plain (Decimal.ofDigits ds), rest) := by
  have read := intDigits_digits digits some_digit ends (plain false) zero_fits fits
  obtain ⟨d, ds, rfl⟩ := List.exists_cons_of_ne_nil some_digit
  have digit : d.isDigit = true := digits d List.mem_cons_self
  have int_chars : ∀ c ∈ d :: ds, isIntChar c = true := fun c mem => isIntChar_digit (digits c mem)
  have left := dropWhile_run int_chars (ends.stops isIntChar rfl rfl)
  have no_byte : ['b', '\''].isPrefixOf (d :: (ds ++ rest)) = false := by
    simp [List.isPrefixOf, (ne_of_isDigit digit (d := 'b') rfl).symm]
  have untyped : (IntType.all.find? fun t => startsWord t.name rest) = none := by
    cases ends <;> rfl
  simp only [List.cons_append] at left read ⊢
  simp [integer, no_byte, Decimal.takeSign_digit digit, left, untyped, read]

end

theorem opens_digits {ds : List Char} (digits : AllDigits ds) (some_digit : ds ≠ []) : Opens ds := by
  obtain ⟨d, ds, rfl⟩ := List.exists_cons_of_ne_nil some_digit
  have digit : d.isDigit = true := digits d List.mem_cons_self
  have bounds : 48 ≤ d.toNat ∧ d.toNat ≤ 57 := Char.isDigit_iff_toNat.mp digit
  have visible : isSpace d = false := by
    simp [isSpace]
    omega
  have slash : d ≠ '/' := ne_of_isDigit digit rfl
  have parenthesis : d ≠ ')' := ne_of_isDigit digit rfl
  have bracket : d ≠ ']' := ne_of_isDigit digit rfl
  simp [Opens, isOpener, visible, slash, parenthesis, bracket]

theorem reads_count (n : UInt32) (l : Lines) : Reads count (writeCount n l) n where
  opens := opens_digits (Decimal.allDigits_digits _) (Decimal.digits_ne_nil _)
  back rest ends := by
    have value : Decimal.ofDigits (Decimal.digits n.toNat) = n.toNat := Decimal.ofDigits_digits _
    have read := integer_digits (Decimal.allDigits_digits n.toNat) (Decimal.digits_ne_nil _) ends
      (fun _ => .count) (by decide) (by
        rw [value]
        have := n.toNat_lt
        simp [IntType.count, IntType.unsigned]
        omega)
    rw [value] at read
    have taken : (integer fun _ => .count).toReader (writeCount n l ++ rest) =
        .ok (.plain n.toNat, rest) := by
      rw [NumberReader.toReader, writeCount, writeWord, read]
    have same : UInt32.ofNat (n.toNat : Int).toNat = n := by simp
    exact (bind_ok taken).trans (congrArg (fun m => Except.ok (m, rest)) same)

end Counts

section Singles

theorem dropUnderscores_eq_self {cs : List Char} (none_there : ∀ c ∈ cs, c ≠ '_') (allowed : Bool) :
    dropUnderscores allowed cs = some cs := by
  induction cs generalizing allowed with
  | nil => rfl
  | cons c cs ih =>
    have after := ih fun c mem => none_there c (List.mem_cons_of_mem _ mem)
    simp only [dropUnderscores, if_neg (none_there c List.mem_cons_self), after, Option.map_some]

theorem isFloatChar_of_isPart {c : Char} (h : Numeral.isPart c = true) : isFloatChar c = true := by
  simp only [Numeral.isPart, Bool.or_eq_true] at h
  simp only [isFloatChar, Bool.or_eq_true]
  tauto

theorem ne_underscore_of_isPart {c : Char} (h : Numeral.isPart c = true) : c ≠ '_' := by
  rintro rfl
  cases h

theorem startsWord_of_not_prefix {word cs : List Char} (h : word.isPrefixOf cs = false)
    (type : List Char) : startsWord (word ++ type) cs = false := by
  rw [startsWord, Bool.and_eq_false_iff]
  left
  rw [Bool.eq_false_iff, ne_eq, List.isPrefixOf_iff_prefix]
  intro starts
  have word_starts := List.isPrefixOf_iff_prefix.mpr ((List.prefix_append word type).trans starts)
  rw [h] at word_starts
  cases word_starts

theorem namedFloat?_eq_none {cs : List Char}
    (unnamed : ∀ entry ∈ namedFloats, entry.1.isPrefixOf cs = false) : namedFloat? cs = none := by
  rw [namedFloat?, List.findSome?_eq_none_iff]
  rintro ⟨word, value⟩ mem
  have untyped := startsWord_of_not_prefix (unnamed _ mem) []
  rw [List.append_nil] at untyped
  simp only [untyped, startsWord_of_not_prefix (unnamed _ mem), Bool.false_eq_true, if_false]

theorem namedFloat?_digit {d : Char} (digit : d.isDigit = true) (negative : Bool)
    (cs : List Char) : namedFloat? ((if negative then ['-'] else []) ++ d :: cs) = none := by
  have differs {c : Char} (other : c.isDigit = false) : (c == d) = false :=
    beq_false_of_ne (ne_of_isDigit digit other).symm
  refine namedFloat?_eq_none ?_
  cases negative <;>
    simp [namedFloats, List.isPrefixOf, differs (c := 'i') rfl, differs (c := 'N') rfl,
      differs (c := '+') rfl, differs (c := '-') rfl]

theorem float_numeral (n : Numeral) (negative : Bool) {rest : List Char} (ends : Ends rest) :
    float ((if negative then ['-'] else []) ++ n.text ++ rest)
      = .ok (⟨n.value.toSingle negative, false⟩, rest) := by
  let text := (if negative then ['-'] else []) ++ n.text
  have parts : ∀ c ∈ text, Numeral.isPart c = true :=
    List.forall_mem_append.mpr ⟨by cases negative <;> simp [Numeral.isPart], n.isPart_text⟩
  have float_chars : ∀ c ∈ text, isFloatChar c = true := fun c mem =>
    isFloatChar_of_isPart (parts c mem)
  have unnamed : namedFloat? (text ++ rest) = none := by
    obtain ⟨d, ds, shape, digit⟩ := n.text_eq_cons
    simp only [text, shape, List.append_assoc, List.cons_append]
    exact namedFloat?_digit digit negative _
  have stops := ends.stops isFloatChar rfl rfl
  have some_char : text.isEmpty = false := by
    obtain ⟨d, ds, shape, -⟩ := n.text_eq_cons
    simp [text, shape]
  have value : floatValue? text = some (n.value.toSingle negative) := by
    rw [floatValue?, n.parse?_text negative]
    rfl
  have untyped : startsWord singleName rest = false ∧ startsWord doubleName rest = false := by
    cases ends <;> exact ⟨rfl, rfl⟩
  have plain := dropUnderscores_eq_self (fun c mem => ne_underscore_of_isPart (parts c mem)) false
  change float (text ++ rest) = _
  simp only [float, unnamed, takeWhile_run float_chars stops, dropWhile_run float_chars stops,
    some_char, plain, value, untyped]
  rfl

theorem float_infinite (negative : Bool) {rest : List Char} (ends : Ends rest) :
    float ((if negative then ['-'] else []) ++ ['i', 'n', 'f'] ++ rest)
      = .ok (⟨.ofMagnitude negative Single.infiniteMagnitude, false⟩, rest) := by
  cases negative <;> cases ends <;> rfl

theorem single_of_float {cs rest : List Char} {x : Single} (read : float cs = .ok (⟨x, false⟩, rest)) :
    single cs = .ok (x, rest) := by
  have taken : float.toReader cs = .ok (⟨x, false⟩, rest) := by
    rw [NumberReader.toReader, read]
  exact bind_ok taken

/-- A single that is a number is read back, bit for bit. -/
theorem reads_single {x : Single} (number : x.isNaN = false) (l : Lines) :
    Reads single (writeSingle x l) x := by
  have written : writeSingle x l = NumberFormat.full.text x := by
    simp [writeSingle, writeWord, number]
  have bounded : x.magnitude ≤ Single.infiniteMagnitude :=
    Nat.not_lt.mp (of_decide_eq_false number)
  rcases Nat.lt_or_eq_of_le bounded with finite | infinite
  · obtain ⟨n, text, value⟩ := NumberFormat.full.text_eq_numeral finite
    rw [written, text]
    refine ⟨?_, fun rest ends => ?_⟩
    · obtain ⟨d, ds, shape, digit⟩ := n.text_eq_cons
      have opens : Opens [d] := opens_digits (by simpa [AllDigits] using digit) (by simp)
      rw [shape]
      cases x.negative with
      | true => rfl
      | false => exact opens
    · have read := float_numeral n x.negative ends
      rw [value] at read
      exact single_of_float read
  · rw [written, NumberFormat.full.text_infinite infinite]
    refine ⟨by cases x.negative <;> rfl, fun rest ends => ?_⟩
    have read := float_infinite x.negative ends
    rw [← infinite, Single.ofMagnitude_magnitude] at read
    exact single_of_float read

end Singles

section Texts

theorem textBody_escape {c : Char} {cs left tail rest : List Char}
    (stands : escape .text cs = .ok (.char c, left)) (shorter : left.length ≤ cs.length)
    (body : textBody left = .ok (tail, rest)) : textBody ('\\' :: cs) = .ok (c :: tail, rest) := by
  rw [textBody]
  simp [stands, shorter, body]

theorem textBody_plain {c : Char} {cs tail rest : List Char} (no_quote : c ≠ '\"')
    (no_escape : c ≠ '\\') (body : textBody cs = .ok (tail, rest)) :
    textBody (c :: cs) = .ok (c :: tail, rest) := by
  rw [textBody]
  simp [no_quote, no_escape, body]

theorem hexDigit?_digitChar : ∀ d < 16, hexDigit? d.digitChar = some d := by decide

theorem codeDigits_cons {c : Char} {d : Nat} (value : hexDigit? c = some d) (left code : Nat)
    (rest : List Char) :
    codeDigits (left + 1) code (c :: rest) = codeDigits left (16 * code + d) rest := by
  have no_brace : c ≠ '\x7d' := by
    rintro rfl
    cases value
  simp [codeDigits, value]

theorem codeDigits_toDigits (n : Nat) : ∀ (left : Nat) (rest : List Char),
    codeDigits (left + (Nat.toDigits 16 n).length) 0 (Nat.toDigits 16 n ++ rest)
      = codeDigits left n rest := by
  refine Nat.base_induction (P := fun n => ∀ left rest, codeDigits
    (left + (Nat.toDigits 16 n).length) 0 (Nat.toDigits 16 n ++ rest) = codeDigits left n rest)
    16 (by decide) ?last ?further
  case last =>
    intro d small left rest
    rw [Nat.toDigits_of_lt_base small]
    exact (codeDigits_cons (hexDigit?_digitChar d small) left 0 rest).trans (by simp)
  case further =>
    intro m d small pos ih left rest
    rw [← Nat.toDigits_append_toDigits (by decide) pos small, Nat.toDigits_of_lt_base small,
      List.append_assoc, List.length_append, Nat.add_comm _ [d.digitChar].length, ← Nat.add_assoc,
      ih]
    exact codeDigits_cons (hexDigit?_digitChar d small) left m rest

theorem head?_toDigits (n : Nat) (rest : List Char) :
    (Nat.toDigits 16 n ++ rest).head? ≠ some '\x7d' := by
  have brace : ∀ d < 16, d.digitChar ≠ '\x7d' := by decide
  refine Nat.base_induction (P := fun n => ∀ rest, (Nat.toDigits 16 n ++ rest).head? ≠ some '\x7d')
    16 (by decide) ?last ?further rest
  case last =>
    intro d small rest
    rw [Nat.toDigits_of_lt_base small]
    simp [brace d small]
  case further =>
    intro m d small pos ih rest
    rw [← Nat.toDigits_append_toDigits (by decide) pos small, List.append_assoc]
    exact ih _

theorem ofCode?_toNat (c : Char) : ofCode? c.toNat = some c := by
  have valid : c.toNat.isValidChar := c.valid
  rw [ofCode?, dif_pos valid]
  exact congrArg some (Char.toNat_inj.mp rfl)

theorem escape_codePoint (c : Char) (rest : List Char) :
    escape .text ('u' :: '\x7b' :: (Nat.toDigits 16 c.toNat ++ '\x7d' :: rest))
      = .ok (.char c, rest) := by
  let digits := Nat.toDigits 16 c.toNat
  have short : digits.length ≤ 6 := by
    rw [Nat.length_toDigits_le_iff (by decide) (by decide)]
    rcases c.valid with low | high <;> simp only [Char.toNat] <;> omega
  have some_digit : (digits ++ '\x7d' :: rest).head? ≠ some '\x7d' := head?_toDigits _ _
  have read : codeDigits 6 0 (digits ++ '\x7d' :: rest) = .ok (c.toNat, rest) := by
    have enough : 6 = (6 - digits.length) + digits.length := (Nat.sub_add_cancel short).symm
    rw [enough, codeDigits_toDigits]
    simp [codeDigits]
  have taken : codePoint ('\x7b' :: (digits ++ '\x7d' :: rest)) = .ok (c, rest) := by
    simp only [codePoint, if_neg some_digit, read, ofCode?_toNat]
  exact bind_ok taken

theorem textBody_encodeChar (c : Char) {cs tail rest : List Char}
    (body : textBody cs = .ok (tail, rest)) :
    textBody (Quoted.encodeChar Quoted.document c ++ cs) = .ok (c :: tail, rest) := by
  have short {d e : Char} (stands : escape .text (e :: cs) = .ok (.char d, cs)) :
      textBody ('\\' :: e :: cs) = .ok (d :: tail, rest) :=
    textBody_escape stands (by simp) body
  unfold Quoted.encodeChar
  -- The cases are those of the writer, from the short escapes to the code point.
  split
  next null => subst null; exact short rfl
  split
  next tab => subst tab; exact short rfl
  split
  next return_ => subst return_; exact short rfl
  split
  next line => subst line; exact short rfl
  split
  next quoted => rcases quoted with rfl | rfl <;> exact short rfl
  next no_quote =>
  rw [not_or] at no_quote
  split
  next apostrophe => subst apostrophe; exact short rfl
  split
  · exact textBody_plain no_quote.2 no_quote.1 body
  · have body_after := textBody_escape (escape_codePoint c cs) (by simp; omega) body
    simpa [Quoted.codePoint] using body_after

theorem textBody_encode (cs rest : List Char) :
    textBody (cs.flatMap (Quoted.encodeChar Quoted.document) ++ '\"' :: rest) = .ok (cs, rest) := by
  induction cs with
  | nil =>
    rw [List.flatMap_nil, List.nil_append, textBody]
    rfl
  | cons c cs ih =>
    rw [List.flatMap_cons, List.append_assoc]
    exact textBody_encodeChar c ih

/-- A text is read back, whatever characters it has. -/
theorem reads_text (cs : List Char) (l : Lines) : Reads text (writeText cs l) cs where
  opens := rfl
  back rest _ := by
    have body := textBody_encode cs rest
    simpa [text, writeText, writeWord, Quoted.encode] using body

end Texts

theorem loose_byFirst {ext : Extensions} {room : Nat} {cs : List Char}
    {result : Except Fault (Loose × List Char)} {f : Fault}
    (no_some : startsWord someWord cs = false)
    (no_word : acceptAnyWord (plainWords ++ noneWord :: numberWords) cs = .ok (false, cs))
    (not_empty : ['(', ')'].isPrefixOf cs = false) (no_name : name cs = .error f)
    (first : ∀ inParentheses member, looseByFirst inParentheses room member cs = result) :
    loose ext true room false false cs = result := by
  rw [loose]
  simp only [Bool.false_eq_true, if_false, no_some, no_word, no_name, not_empty]
  exact first _ _

section Literals

theorem opens_raw {body rest s : List Char} {f : Fault} (raw : rawBody f body = .ok (s, rest)) :
    literalOpeners.any (·.isPrefixOf ('r' :: body)) = true := by
  have quoted : (body.dropWhile (· == '#')).head? = some '\"' := by
    unfold rawBody at raw
    split at raw
    next same => rw [same, List.head?_cons]
    next => cases raw
  have first {c : Char} {cs : List Char} (other : (c == '#') = false)
      (quoted : ((c :: cs).dropWhile (· == '#')).head? = some '\"') : c = '\"' := by
    rw [List.dropWhile_cons_of_neg (by simp [other])] at quoted
    exact Option.some.inj quoted
  cases body with
  | nil => cases quoted
  | cons c body =>
    cases sign : c == '#' with
    | false =>
      obtain rfl := first sign quoted
      rfl
    | true =>
      obtain rfl := eq_of_beq sign
      cases body with
      | nil => cases quoted
      | cons d body =>
        cases sign : d == '#' with
        | false =>
          obtain rfl := first sign quoted
          rfl
        | true =>
          obtain rfl := eq_of_beq sign
          rfl

variable {cs rest s : List Char} (read : text cs = .ok (s, rest))

include read

theorem text_opens : (∃ body, cs = '\"' :: body) ∨
    ∃ body, cs = 'r' :: body ∧ literalOpeners.any (·.isPrefixOf cs) = true := by
  unfold text at read
  split at read
  next body => exact .inl ⟨body, rfl⟩
  next body => exact .inr ⟨body, rfl, opens_raw read⟩
  next => cases read

theorem name_text : name cs = .error .malformed := by
  rcases text_opens read with ⟨body, rfl⟩ | ⟨body, rfl, opened⟩
  · rfl
  · simp [name, name?, opened]

theorem loose_literal (ext : Extensions) (room : Nat) :
    loose ext true room false false cs = .ok (.text s, rest) := by
  have taken : (do return .text (← text) : Reader Loose) cs = .ok (.text s, rest) := bind_ok read
  have no_name := name_text read
  rcases text_opens read with ⟨body, rfl⟩ | ⟨body, rfl, -⟩ <;>
    exact loose_byFirst rfl rfl rfl no_name fun _ _ => taken

end Literals

theorem isFirst_digit {d : Char} (digit : d.isDigit = true) : Name.isFirst d = false := by
  have each : ∀ n ∈ List.range' 48 10, Name.isFirst (Char.ofNat n) = false := by decide +kernel
  have bounds : 48 ≤ d.toNat ∧ d.toNat ≤ 57 := Char.isDigit_iff_toNat.mp digit
  have found := each d.toNat (List.mem_range'_1.mpr (by omega))
  rwa [Char.ofNat_toNat] at found

theorem name_digit {d : Char} (digit : d.isDigit = true) (cs : List Char) :
    name (d :: cs) = .error .malformed := by
  have nothing : name? (d :: cs) = none := by
    unfold name?
    split
    · rfl
    split
    next shape => exact absurd (List.cons.inj shape).1 (ne_of_isDigit digit rfl)
    next shape =>
      rw [← (List.cons.inj shape).1, isFirst_digit digit]
      rfl
    next => rfl
  rw [name, nothing]

section Digits

variable {ds rest : List Char} (digits : AllDigits ds) (some_digit : ds ≠ []) (ends : Ends rest)

include digits some_digit ends

theorem looksFractional_digits : looksFractional (ds ++ rest) = false := by
  have int_chars : ∀ c ∈ ds, isIntChar c = true := fun c mem => isIntChar_digit (digits c mem)
  have float_chars : ∀ c ∈ ds, isFloatChar c = true := fun c mem => by
    simp [isFloatChar, digits c mem]
  have as_int := takeWhile_run int_chars (ends.stops isIntChar rfl rfl)
  have as_float := takeWhile_run float_chars (ends.stops isFloatChar rfl rfl)
  obtain ⟨d, ds, rfl⟩ := List.exists_cons_of_ne_nil some_digit
  have digit : d.isDigit = true := digits d List.mem_cons_self
  have no_sign {sign : Char} (other : sign.isDigit = false) (tail : List Char) :
      d :: ds ++ rest ≠ sign :: tail := fun shape =>
    ne_of_isDigit digit other (List.cons.inj shape).1
  rw [looksFractional.eq_3 _ (no_sign rfl) (no_sign rfl), as_int, as_float]
  exact decide_eq_false (Nat.lt_irrefl _)

theorem anyNumber_digits (fits : Decimal.ofDigits ds < UInt32.size) :
    anyNumber (ds ++ rest) = .ok (some (Decimal.ofDigits ds : Int), rest) := by
  have read := integer_digits digits some_digit ends .widest (by decide) (by
    simp [IntType.widest, IntType.unsigned, UInt32.size] at fits ⊢
    omega)
  simp [anyNumber, looksFractional_digits digits some_digit ends, read]

theorem loose_digits (ext : Extensions) (room : Nat) (fits : Decimal.ofDigits ds < UInt32.size) :
    loose ext true room false false (ds ++ rest) = .ok (.number (Decimal.ofDigits ds), rest) := by
  have read := anyNumber_digits digits some_digit ends fits
  obtain ⟨d, ds, rfl⟩ := List.exists_cons_of_ne_nil some_digit
  have digit : d.isDigit = true := digits d List.mem_cons_self
  have differs {c : Char} (other : c.isDigit = false) : (c == d) = false :=
    beq_false_of_ne (ne_of_isDigit digit other).symm
  rw [List.cons_append] at read ⊢
  refine loose_byFirst (f := .malformed) ?_ ?_ ?_ ?_ fun _ _ => ?_
  · simp [startsWord, someWord, List.isPrefixOf, differs]
  · simp [acceptAnyWord, startsWord, plainWords, noneWord, numberWords, List.isPrefixOf, differs]
  · simp [List.isPrefixOf, differs]
  · exact name_digit digit _
  · have no_bracket : d ≠ '(' ∧ d ≠ '[' ∧ d ≠ '\x7b' :=
      ⟨ne_of_isDigit digit rfl, ne_of_isDigit digit rfl, ne_of_isDigit digit rfl⟩
    simp only [looseByFirst, no_bracket, digit, Bool.true_or, if_true, if_false]
    exact bind_ok read

end Digits

end VoxelGI.Document
