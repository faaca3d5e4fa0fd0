import Mathlib.Data.List.TakeDrop
import SpokeSim.Json.Parser
import SpokeSim.Proofs.Codec.Faithful

/-!
# Reading back a text

The compact text of a document is read as that document (`Printable.ofText_compact`), in two groups.

**Scalars.**  Strings are escaped character by character and numbers written in decimal digits; the
reader takes each of them whole (`string_quoted`, `number_toDigits`) and nothing of what stands
behind.

**Values.**  `ReadBack` says the same of any document, wherever it stands in a text and whatever is
left to be read.  Of arrays and objects it follows from their parts (`readBack_arr`,
`readBack_obj`).  The reader has three times as much fuel as there are characters left, and of any
three calls at least one spends a character.
-/

namespace SpokeSim.Json

/-! ## Characters that matter to what stands before them -/

/-- Blanks are passed over wherever a value may begin. -/
def IsBlank (c : Char) : Prop := c = ' ' ∨ c = '\n' ∨ c = '\t' ∨ c = '\r'

instance (c : Char) : Decidable (IsBlank c) :=
  inferInstanceAs (Decidable (c = ' ' ∨ c = '\n' ∨ c = '\t' ∨ c = '\r'))

lemma skipBlanks_cons {c : Char} (h : ¬IsBlank c) (cs : List Char) :
    skipBlanks (c :: cs) = c :: cs := if_neg h

/-- Nothing stands there with which a number could go on. -/
def Stops (rest : List Char) : Prop :=
  ∀ c ∈ rest.head?, c.isDigit = false ∧ c ≠ '.' ∧ c ≠ 'e' ∧ c ≠ 'E'

lemma stops_nil : Stops [] := fun _ h => nomatch h

lemma stops_cons {c : Char} (h : c.isDigit = false ∧ c ≠ '.' ∧ c ≠ 'e' ∧ c ≠ 'E')
    (rest : List Char) : Stops (c :: rest) := by
  intro c' hc'
  obtain rfl := Option.some.inj hc'
  exact h

/-! ## Strings -/

lemma hexValue?_hexDigit {n : Nat} (h : n < 16) : hexValue? (hexDigit n) = some n := by
  revert n
  decide

lemma fourHex_quoted {n : Nat} (h : n < 32) (cs : List Char) :
    fourHex ('0' :: '0' :: hexDigit (n / 16) :: hexDigit (n % 16) :: cs) = .ok (n, cs) := by
  have hdigits : ['0', '0', hexDigit (n / 16), hexDigit (n % 16)].mapM hexValue? =
      some [0, 0, n / 16, n % 16] := by
    have hzero : hexValue? '0' = some 0 := by decide
    simp [List.mapM_cons, hzero, hexValue?_hexDigit (show n / 16 < 16 by omega),
      hexValue?_hexDigit (show n % 16 < 16 by omega)]
  rw [fourHex]
  simp only [List.take_succ_cons, List.take_zero, hdigits, List.drop_succ_cons, List.drop_zero]
  congr 2
  omega

lemma unicodeEscape_quoted {c : Char} (h : c.toNat < 32) (cs : List Char) :
    unicodeEscape ('0' :: '0' :: hexDigit (c.toNat / 16) :: hexDigit (c.toNat % 16) :: cs) =
      .ok (c, cs) := by
  rw [unicodeEscape, fourHex_quoted h]
  show (if 0xDC00 ≤ c.toNat ∧ c.toNat ≤ 0xDFFF then _
    else if 0xD800 ≤ c.toNat ∧ c.toNat ≤ 0xDBFF then _ else _) = _
  rw [if_neg (by omega), if_neg (by omega), Char.ofNat_toNat]
  rfl

lemma stringTail_quoteChar (c : Char) (fuel : Nat) (acc cs : List Char) :
    stringTail unicodeEscape (fuel + 1) acc (quoteChar c ++ cs) =
      stringTail unicodeEscape fuel (c :: acc) cs := by
  unfold quoteChar
  split
  -- a character without a short escape of its own
  case h_8 =>
    split_ifs with hcontrol
    · simp only [List.cons_append, List.nil_append, stringTail, unicodeEscape_quoted hcontrol]
      rfl
    · rw [List.cons_append, List.nil_append, stringTail]
      · rw [if_neg hcontrol]
      all_goals simp_all
  all_goals rfl

lemma stringTail_quoted (s : List Char) {fuel : Nat} (hfuel : s.length < fuel)
    (acc rest : List Char) :
    stringTail unicodeEscape fuel acc (s.flatMap quoteChar ++ '"' :: rest) =
      .ok (String.ofList (acc.reverse ++ s), rest) := by
  induction s generalizing fuel acc with
  | nil =>
    obtain ⟨fuel, rfl⟩ := Nat.exists_eq_add_one_of_ne_zero (Nat.ne_of_gt hfuel)
    rw [List.append_nil]
    rfl
  | cons c s ih =>
    obtain ⟨fuel, rfl⟩ := Nat.exists_eq_add_one_of_ne_zero (Nat.ne_of_gt (Nat.zero_lt_of_lt hfuel))
    rw [List.flatMap_cons, List.append_assoc, stringTail_quoteChar,
      ih (Nat.lt_of_succ_lt_succ hfuel), List.reverse_cons, List.append_assoc]
    rfl

lemma quoteChar_ne_nil (c : Char) : quoteChar c ≠ [] := by
  unfold quoteChar
  split
  case h_8 => split_ifs <;> exact List.cons_ne_nil _ _
  all_goals exact List.cons_ne_nil _ _

lemma length_le_quoted (s : List Char) : s.length ≤ (s.flatMap quoteChar).length := by
  induction s with
  | nil => exact Nat.le_refl _
  | cons c s ih =>
    have hpos := List.length_pos_iff.2 (quoteChar_ne_nil c)
    rw [List.flatMap_cons, List.length_append, List.length_cons]
    omega

/-- **A string is read back**, its opening quote taken off. -/
lemma string_quoted (s : String) (rest : List Char) :
    string (s.toList.flatMap quoteChar ++ '"' :: rest) = (.str s, rest) := by
  have hlength : s.toList.length < (s.toList.flatMap quoteChar ++ '"' :: rest).length + 1 := by
    have hquoted := length_le_quoted s.toList
    rw [List.length_append]
    omega
  rw [string, stringTail_quoted s.toList hlength, List.reverse_nil, List.nil_append,
    String.ofList_toList]

lemma toList_quote (s : String) :
    (quote s).toList = '"' :: (s.toList.flatMap quoteChar ++ ['"']) := by
  rw [quote, String.toList_ofList, List.cons_append]

/-! ## Numbers -/

section

variable {ds rest : List Char} {n : Nat}

lemma digits_append (hds : ∀ c ∈ ds, c.isDigit = true) (hrest : Stops rest) :
    digits (ds ++ rest) = (ds, rest) := by
  rw [digits, List.span_eq_takeWhile_dropWhile, List.takeWhile_append_of_pos hds,
    List.dropWhile_append_of_pos hds]
  cases rest with
  | nil => simp
  | cons c rest =>
    obtain ⟨hc, -⟩ := hrest c rfl
    rw [List.takeWhile_cons_of_neg (by simp [hc]), List.dropWhile_cons_of_neg (by simp [hc]),
      List.append_nil]

lemma isDigit_of_mem_toDigits : ∀ c ∈ Nat.toDigits 10 n, c.isDigit = true :=
  fun _ => Nat.isDigit_of_mem_toDigits (by decide) (by decide)

lemma exists_toDigits_eq (n : Nat) :
    ∃ d ds, Nat.toDigits 10 n = d :: ds ∧ d.isDigit = true := by
  obtain ⟨d, ds, hdigits⟩ := List.exists_cons_of_ne_nil (Nat.toDigits_ne_nil (n := n) (b := 10))
  refine ⟨d, ds, hdigits, isDigit_of_mem_toDigits (n := n) d ?_⟩
  rw [hdigits]
  exact List.mem_cons_self

/-- A number that is not zero is written without leading zeros. -/
lemma head_toDigits_ne_zero (hn : 0 < n) : ∃ d ds, Nat.toDigits 10 n = d :: ds ∧ d ≠ '0' := by
  have hdigit : ∀ n < 10, 0 < n → n.digitChar ≠ '0' := by decide
  induction n using Nat.strongRecOn with
  | ind n ih =>
    by_cases hlt : n < 10
    · exact ⟨n.digitChar, [], Nat.toDigits_of_lt_base hlt, hdigit n hlt hn⟩
    · obtain ⟨d, ds, hdigits, hd⟩ := ih (n / 10) (by omega) (by omega)
      refine ⟨d, ds ++ [(n % 10).digitChar], ?_, hd⟩
      rw [Nat.toDigits_of_base_le (by decide) (Nat.le_of_not_lt hlt), hdigits, List.cons_append]

lemma wholePart_toDigits (n : Nat) (hrest : Stops rest) :
    wholePart (Nat.toDigits 10 n ++ rest) = .ok (Nat.toDigits 10 n, rest) := by
  have hsome : someDigits (Nat.toDigits 10 n ++ rest) = .ok (Nat.toDigits 10 n, rest) := by
    rw [someDigits, digits_append isDigit_of_mem_toDigits hrest]
    obtain ⟨d, ds, hdigits, -⟩ := exists_toDigits_eq n
    rw [hdigits]
  obtain rfl | hn := Nat.eq_zero_or_pos n
  · cases rest with
    | nil => exact hsome
    | cons c rest =>
      obtain ⟨hc, -⟩ := hrest c rfl
      show (if c.isDigit = true then _ else _) = _
      rw [if_neg (by simp [hc])]
      rfl
  · obtain ⟨d, ds, hdigits, hd⟩ := head_toDigits_ne_zero hn
    rw [hdigits] at hsome ⊢
    rw [wholePart]
    · exact hsome
    · simp [hd]

lemma fractionPart_of_stops (hrest : Stops rest) : fractionPart rest = .ok ([], rest) := by
  cases rest with
  | nil => rfl
  | cons c rest =>
    obtain ⟨-, hc, -⟩ := hrest c rfl
    rw [fractionPart]
    simp [hc]

lemma exponentPart_of_stops (hrest : Stops rest) : exponentPart rest = .ok ([], rest) := by
  cases rest with
  | nil => rfl
  | cons c rest =>
    obtain ⟨-, -, hc⟩ := hrest c rfl
    exact if_neg (by simp [hc])

lemma numberParts_toDigits (n : Nat) (hrest : Stops rest) :
    numberParts (Nat.toDigits 10 n ++ rest) = .ok ((Nat.toDigits 10 n, [], []), rest) := by
  simp only [numberParts, wholePart_toDigits n hrest, fractionPart_of_stops hrest,
    exponentPart_of_stops hrest, bind, Except.bind]
  rfl

lemma digitsValue_toDigits (n : Nat) : digitsValue (Nat.toDigits 10 n) = n :=
  Nat.ofDigitChars_ten_toDigits

lemma isHuge_eq_false (hn : n ≤ UInt64.size) : ({ digits := n } : Decimal).isHuge = false := by
  have hhuge : UInt64.size < Decimal.hugeFrom := by decide +kernel
  have hsmall : n * Nat.pow 10 0 < Decimal.hugeFrom := by
    show n * 1 < _
    omega
  rw [Decimal.isHuge]
  split_ifs
  · rfl
  · show (decide (0 > 308) || decide (n * Nat.pow 10 0 ≥ Decimal.hugeFrom)) = false
    simpa using hsmall

/-- **A whole number is read back**, its sign taken off, if it is one of 64 bits. -/
lemma number_toDigits (start : Char) (negative : Bool) (hn : n ≤ UInt64.size)
    (hrest : Stops rest) :
    number start negative (Nat.toDigits 10 n ++ rest) =
      (ofNumber negative (Nat.toDigits 10 n) [], rest) := by
  have hdecimal : decimalOf (Nat.toDigits 10 n) [] [] = { digits := n } := by
    rw [decimalOf, List.drop_nil, List.append_nil, digitsValue_toDigits]
    rfl
  have hhuge : (decimalOf (Nat.toDigits 10 n) [] []).isHuge = false := by
    rw [hdecimal, isHuge_eq_false hn]
  rw [number, numberParts_toDigits n hrest]
  simp only [hhuge, Bool.false_eq_true, if_false, List.append_nil]

lemma ofNumber_false (hn : n < UInt64.size) :
    ofNumber false (Nat.toDigits 10 n) [] = .int n := by
  simp only [ofNumber, digitsValue_toDigits]
  exact if_pos hn

lemma ofNumber_true (hpos : 0 < n) (hn : Int64.minValue.toInt ≤ -n) :
    ofNumber true (Nat.toDigits 10 n) [] = .int (-n) := by
  simp only [ofNumber, digitsValue_toDigits]
  exact if_pos ⟨hpos, hn⟩

end

/-! ## Values -/

/-- A document is read from its text where so many levels are left, and nothing of what stands
behind it is taken. -/
structure ReadBack (levels : Nat) (j : Json) : Prop where
  opens : ∃ c cs, j.compact.toList = c :: cs ∧ ¬IsBlank c ∧ c ≠ ']'
  value : ∀ {fuel rest}, Stops rest → 3 * (j.compact.toList ++ rest).length ≤ fuel + 1 →
    value (fuel + 1) levels (j.compact.toList ++ rest) = (.ofJson j, rest)

variable {levels : Nat}

lemma word_append (ws rest : List Char) : word ws (ws ++ rest) = .ok rest := by
  induction ws with
  | nil => rfl
  | cons w ws ih => rw [List.cons_append, word, if_pos rfl, ih]

lemma wordValue_append (start : Char) (ending : List Char) (d : Draft) (rest : List Char) :
    wordValue start ending d (ending ++ rest) = (d, rest) := by
  rw [wordValue, word_append]

/-- Words are read to their ends. -/
lemma ReadBack.of_word {j : Json} {c : Char} {ending : List Char}
    (htext : j.compact.toList = c :: ending) (hopens : ¬IsBlank c ∧ c ≠ ']')
    (hword : ∀ fuel cs, Json.value (fuel + 1) levels (c :: cs) =
      wordValue c ending (.ofJson j) cs) : ReadBack levels j where
  opens := ⟨c, ending, htext, hopens⟩
  value _ _ := by rw [htext, List.cons_append, hword, wordValue_append]

lemma readBack_null : ReadBack levels .null := by
  have htext : null.compact.toList = 'n' :: ['u', 'l', 'l'] := by rw [compact]; decide
  refine .of_word htext (by decide) fun fuel cs => ?_
  rw [value, skipBlanks_cons (by decide)]
  rfl

lemma readBack_bool (b : Bool) : ReadBack levels (.bool b) := by
  cases b with
  | false =>
    have htext : (bool false).compact.toList = 'f' :: ['a', 'l', 's', 'e'] := by
      rw [compact]; decide
    refine .of_word htext (by decide) fun fuel cs => ?_
    rw [value, skipBlanks_cons (by decide)]
    rfl
  | true =>
    have htext : (bool true).compact.toList = 't' :: ['r', 'u', 'e'] := by rw [compact]; decide
    refine .of_word htext (by decide) fun fuel cs => ?_
    rw [value, skipBlanks_cons (by decide)]
    rfl

lemma readBack_str (s : String) : ReadBack levels (.str s) where
  opens := ⟨'"', _, by rw [compact, toList_quote], by decide, by decide⟩
  value _ _ := by
    rw [compact, toList_quote, List.cons_append, Json.value, skipBlanks_cons (by decide),
      List.append_assoc]
    exact string_quoted s _

lemma not_isBlank_of_isDigit {d : Char} (hd : d.isDigit = true) : ¬IsBlank d := by
  rintro (rfl | rfl | rfl | rfl) <;> simp at hd

lemma value_of_isDigit {fuel : Nat} {d : Char} (hd : d.isDigit = true) (cs : List Char) :
    value (fuel + 1) levels (d :: cs) = number d false (d :: cs) := by
  rw [value, skipBlanks_cons (not_isBlank_of_isDigit hd)]
  split
  case h_1 heq => cases heq
  case h_9 heq =>
    obtain ⟨rfl, rfl⟩ := List.cons.inj heq
    exact if_pos hd
  -- all others begin with a character that is no digit
  all_goals
    rename_i heq
    rw [(List.cons.inj heq).1] at hd
    simp at hd

lemma readBack_int {n : Int} (hleast : Int64.minValue.toInt ≤ n) (hmost : n < UInt64.size) :
    ReadBack levels (.int n) := by
  cases n with
  | ofNat n =>
    have htext : (compact (.int (.ofNat n))).toList = Nat.toDigits 10 n := Nat.toList_repr
    obtain ⟨d, ds, hdigits, hd⟩ := exists_toDigits_eq n
    refine ⟨⟨d, ds, htext.trans hdigits, not_isBlank_of_isDigit hd, ?_⟩, fun hrest _ => ?_⟩
    · rintro rfl
      simp at hd
    · have hlt : n < UInt64.size := Int.ofNat_lt.1 hmost
      rw [htext, hdigits, List.cons_append, value_of_isDigit hd, ← List.cons_append, ← hdigits,
        number_toDigits d false (Nat.le_of_lt hlt) hrest, ofNumber_false hlt]
      rfl
  | negSucc n =>
    have htext : (compact (.int (.negSucc n))).toList = '-' :: Nat.toDigits 10 (n + 1) := by
      show ("-" ++ (n + 1).repr).toList = _
      rw [String.toList_append, Nat.toList_repr]
      rfl
    refine ⟨⟨'-', _, htext, by decide, by decide⟩, fun hrest _ => ?_⟩
    have hsize : n + 1 ≤ UInt64.size := by
      have : Int64.minValue.toInt = -9223372036854775808 := by decide
      have : UInt64.size = 18446744073709551616 := rfl
      omega
    rw [htext, List.cons_append, value, skipBlanks_cons (by decide)]
    show number '-' true _ = _
    rw [number_toDigits '-' true hsize hrest, ofNumber_true (Nat.succ_pos n) hleast]
    rfl

/-! ## Arrays and objects -/

lemma skip?_ofJson (j : Json) : (Draft.ofJson j).skip? = none := by
  cases j <;> rfl

/-- What is written behind one part of an array or object: the other parts, and the bracket that
closes it. -/
def behind (close : Char) (ts : List (List Char)) : List Char := ts.flatMap (',' :: ·) ++ [close]

lemma behind_cons (close : Char) (t : List Char) (ts : List (List Char)) (rest : List Char) :
    behind close (t :: ts) ++ rest = ',' :: (t ++ (behind close ts ++ rest)) := by
  simp [behind]

lemma stops_behind (close : Char)
    (h : close.isDigit = false ∧ close ≠ '.' ∧ close ≠ 'e' ∧ close ≠ 'E')
    (ts : List (List Char)) (rest : List Char) : Stops (behind close ts ++ rest) := by
  cases ts with
  | nil => exact stops_cons h rest
  | cons t ts => exact stops_cons (by decide) _

lemma intercalate_append (close : Char) (t : List Char) (ts : List (List Char)) :
    [','].intercalate (t :: ts) ++ [close] = t ++ behind close ts := by
  induction ts generalizing t with
  | nil => simp [List.intercalate, behind]
  | cons t' ts ih =>
    rw [List.intercalate_cons_cons, List.append_assoc, ih]
    simp [behind]

lemma compactItems_eq_map (js : List Json) : compactItems js = js.map compact := by
  induction js with
  | nil => rfl
  | cons j js ih => rw [compactItems, ih, List.map_cons]

/-- The characters of an item. -/
def itemText (j : Json) : List Char := j.compact.toList

lemma toList_compact_arr (j : Json) (js : List Json) :
    (compact (.arr (j :: js))).toList = '[' :: (itemText j ++ behind ']' (js.map itemText)) := by
  rw [compact, compactItems_eq_map, String.toList_append, String.toList_append,
    String.toList_intercalate, List.map_map, List.map_cons]
  exact congrArg ('[' :: ·) (intercalate_append ']' (itemText j) (js.map itemText))

/-- The characters of a member. -/
def memberText (m : String × Json) : List Char :=
  '"' :: (m.1.toList.flatMap quoteChar ++ '"' :: ':' :: m.2.compact.toList)

lemma map_toList_compactMembers (ms : List (String × Json)) :
    (compactMembers ms).map String.toList = ms.map memberText := by
  induction ms with
  | nil => rfl
  | cons m ms ih =>
    obtain ⟨k, j⟩ := m
    rw [compactMembers, List.map_cons, ih, String.toList_append, String.toList_append, toList_quote]
    simp [memberText]

lemma toList_compact_obj (m : String × Json) (ms : List (String × Json)) :
    (compact (.obj (m :: ms))).toList =
      '\x7b' :: (memberText m ++ behind '\x7d' (ms.map memberText)) := by
  rw [compact, String.toList_append, String.toList_append, String.toList_intercalate,
    map_toList_compactMembers, List.map_cons]
  exact congrArg ('\x7b' :: ·) (intercalate_append '\x7d' (memberText m) (ms.map memberText))

section

variable {fuel : Nat} {cs rest : List Char} {j : Json}

lemma itemsTail_last (h : value fuel levels cs = (.ofJson j, ']' :: rest)) (acc : List Draft) :
    itemsTail (fuel + 1) levels acc cs = ((.ofJson j :: acc).reverse, none, rest) := by
  simp only [itemsTail, h, skip?_ofJson]
  rw [skipBlanks_cons (by decide)]
  rfl

lemma itemsTail_comma (h : value fuel levels cs = (.ofJson j, ',' :: rest)) (acc : List Draft) :
    itemsTail (fuel + 1) levels acc cs = itemsTail fuel levels (.ofJson j :: acc) rest := by
  simp only [itemsTail, h, skip?_ofJson]
  rw [skipBlanks_cons (by decide)]
  rfl

lemma memberTail_last (h : value fuel levels cs = (.ofJson j, '\x7d' :: rest)) (name : String)
    (acc : List (String × Draft)) :
    memberTail (fuel + 1) levels name acc (':' :: cs) =
      (((name, .ofJson j) :: acc).reverse, none, rest) := by
  simp only [memberTail, skipBlanks_cons (show ¬IsBlank ':' by decide), h, skip?_ofJson]
  rw [skipBlanks_cons (by decide)]
  rfl

lemma memberTail_comma (h : value fuel levels cs = (.ofJson j, ',' :: rest)) (name : String)
    (acc : List (String × Draft)) :
    memberTail (fuel + 1) levels name acc (':' :: cs) =
      membersTail fuel levels ((name, .ofJson j) :: acc) rest := by
  simp only [memberTail, skipBlanks_cons (show ¬IsBlank ':' by decide), h, skip?_ofJson]
  rw [skipBlanks_cons (by decide)]
  rfl

lemma membersTail_name (name : String) (acc : List (String × Draft)) (cs : List Char) :
    membersTail (fuel + 1) levels acc
        ('"' :: (name.toList.flatMap quoteChar ++ '"' :: cs)) =
      memberTail fuel levels name acc cs := by
  simp only [membersTail, skipBlanks_cons (show ¬IsBlank '"' by decide), string_quoted]

end

/-- There is fuel as long as a bracket is left to be closed. -/
lemma exists_fuel {fuel : Nat} {close : Char} {t : List Char} {ts : List (List Char)}
    {rest : List Char} (h : 3 * (t ++ (behind close ts ++ rest)).length ≤ fuel) :
    ∃ f, fuel = f + 2 := by
  refine Nat.exists_eq_add_of_le' (Nat.le_trans ?_ h)
  simp only [behind, List.length_append, List.length_singleton]
  omega

lemma itemsTail_readBack {fuel : Nat} {j : Json} {js : List Json} {rest : List Char}
    (h : ∀ j' ∈ j :: js, ReadBack levels j') (acc : List Draft)
    (hfuel : 3 * (itemText j ++ (behind ']' (js.map itemText) ++ rest)).length ≤ fuel) :
    itemsTail (fuel + 1) levels acc (itemText j ++ (behind ']' (js.map itemText) ++ rest)) =
      (acc.reverse ++ (j :: js).map .ofJson, none, rest) := by
  -- on the items behind the first one, which have the fuel that it leaves
  induction js generalizing j fuel acc with
  | nil =>
    obtain ⟨fuel, rfl⟩ := exists_fuel hfuel
    have hvalue := (h j List.mem_cons_self).value (stops_behind ']' (by decide) [] rest) hfuel
    rw [List.map_nil, itemText, itemsTail_last hvalue, List.reverse_cons]
    rfl
  | cons j' js ih =>
    obtain ⟨fuel, rfl⟩ := exists_fuel hfuel
    have hvalue := (h j List.mem_cons_self).value
      (stops_behind ']' (by decide) (List.map itemText (j' :: js)) rest) hfuel
    rw [List.map_cons, behind_cons] at hvalue hfuel ⊢
    rw [List.length_append, List.length_cons] at hfuel
    rw [itemText, itemsTail_comma hvalue,
      ih (fun j hj => h j (List.mem_cons_of_mem _ hj)) _ (by omega), List.reverse_cons,
      List.append_assoc]
    rfl

lemma memberText_append (m : String × Json) (cs : List Char) : memberText m ++ cs =
    '"' :: (m.1.toList.flatMap quoteChar ++ '"' :: ':' :: (m.2.compact.toList ++ cs)) := by
  simp [memberText]

lemma ReadBack.value_member {m : String × Json} (h : ReadBack levels m.2) {fuel : Nat}
    {ts : List (List Char)} {rest : List Char}
    (hfuel : 3 * (memberText m ++ (behind '\x7d' ts ++ rest)).length ≤ fuel + 2) :
    Json.value (fuel + 1) levels (m.2.compact.toList ++ (behind '\x7d' ts ++ rest)) =
      (.ofJson m.2, behind '\x7d' ts ++ rest) := by
  refine h.value (stops_behind '\x7d' (by decide) ts rest) ?_
  rw [memberText_append] at hfuel
  simp only [List.length_cons, List.length_append] at hfuel ⊢
  omega

lemma membersTail_readBack {fuel : Nat} {m : String × Json} {ms : List (String × Json)}
    {rest : List Char} (h : ∀ m' ∈ m :: ms, ReadBack levels m'.2) (acc : List (String × Draft))
    (hfuel : 3 * (memberText m ++ (behind '\x7d' (ms.map memberText) ++ rest)).length ≤ fuel) :
    membersTail (fuel + 1) levels acc
        (memberText m ++ (behind '\x7d' (ms.map memberText) ++ rest)) =
      (acc.reverse ++ (m :: ms).map (fun m => (m.1, .ofJson m.2)), none, rest) := by
  induction ms generalizing m fuel acc with
  | nil =>
    obtain ⟨fuel, rfl⟩ := exists_fuel hfuel
    have hvalue := (h m List.mem_cons_self).value_member hfuel
    rw [memberText_append, membersTail_name, memberTail_last hvalue, List.reverse_cons]
    rfl
  | cons m' ms ih =>
    obtain ⟨fuel, rfl⟩ := exists_fuel hfuel
    have hvalue := (h m List.mem_cons_self).value_member hfuel
    rw [List.map_cons, behind_cons] at hvalue hfuel ⊢
    rw [List.length_append, List.length_cons] at hfuel
    rw [memberText_append, membersTail_name, memberTail_comma hvalue,
      ih (fun m hm => h m (List.mem_cons_of_mem _ hm)) _ (by omega), List.reverse_cons,
      List.append_assoc]
    rfl

lemma ReadBack.value_arr {j : Json} (h : ReadBack levels j) {fuel : Nat} {cs rest : List Char}
    {ds : List Draft} (hitems : itemsTail fuel levels [] (itemText j ++ cs) = (ds, none, rest)) :
    Json.value (fuel + 1) (levels + 1) ('[' :: (itemText j ++ cs)) = (.arr ds none, rest) := by
  obtain ⟨c, cs', hopen, hblank, hclose⟩ := h.opens
  rw [itemText, hopen, List.cons_append] at hitems ⊢
  rw [Json.value, skipBlanks_cons (by decide)]
  simp [skipBlanks_cons hblank, hclose, within, hitems]

lemma readBack_arr {items : List Json} (h : ∀ j ∈ items, ReadBack levels j) :
    ReadBack (levels + 1) (.arr items) := by
  cases items with
  | nil =>
    have htext : (compact (.arr [])).toList = ['[', ']'] := by rw [compact]; decide
    refine ⟨⟨'[', _, htext, by decide, by decide⟩, fun _ _ => ?_⟩
    rw [htext, List.cons_append, List.singleton_append, value, skipBlanks_cons (by decide)]
    simp [skipBlanks_cons (show ¬IsBlank ']' by decide), within, Draft.ofJson, Draft.ofItems]
  | cons j js =>
    refine ⟨⟨'[', _, toList_compact_arr j js, by decide, by decide⟩, @fun fuel rest _ hfuel => ?_⟩
    rw [toList_compact_arr, List.cons_append, List.append_assoc] at hfuel ⊢
    rw [List.length_cons] at hfuel
    obtain ⟨fuel, rfl⟩ : ∃ f, fuel = f + 1 := Nat.exists_eq_add_of_le' (by omega)
    rw [Draft.ofJson, Draft.ofItems_eq_map]
    exact (h j List.mem_cons_self).value_arr (itemsTail_readBack h [] (by omega))

lemma value_obj {fuel : Nat} {m : String × Json} {cs rest : List Char}
    {ds : List (String × Draft)}
    (hmembers : membersTail fuel levels [] (memberText m ++ cs) = (ds, none, rest)) :
    value (fuel + 1) (levels + 1) ('\x7b' :: (memberText m ++ cs)) = (.obj ds none, rest) := by
  rw [memberText_append] at hmembers ⊢
  rw [value, skipBlanks_cons (by decide)]
  simp [skipBlanks_cons (show ¬IsBlank '"' by decide), within, hmembers]

lemma readBack_obj {members : List (String × Json)} (h : ∀ m ∈ members, ReadBack levels m.2) :
    ReadBack (levels + 1) (.obj members) := by
  cases members with
  | nil =>
    have htext : (compact (.obj [])).toList = ['\x7b', '\x7d'] := by rw [compact]; decide
    refine ⟨⟨'\x7b', _, htext, by decide, by decide⟩, fun _ _ => ?_⟩
    rw [htext, List.cons_append, List.singleton_append, value, skipBlanks_cons (by decide)]
    simp [skipBlanks_cons (show ¬IsBlank '\x7d' by decide), within, Draft.ofJson, Draft.ofMembers]
  | cons m ms =>
    refine ⟨⟨'\x7b', _, toList_compact_obj m ms, by decide, by decide⟩,
      @fun fuel rest _ hfuel => ?_⟩
    rw [toList_compact_obj, List.cons_append, List.append_assoc] at hfuel ⊢
    rw [List.length_cons] at hfuel
    obtain ⟨fuel, rfl⟩ : ∃ f, fuel = f + 1 := Nat.exists_eq_add_of_le' (by omega)
    rw [Draft.ofJson, Draft.ofMembers_eq_map]
    exact value_obj (membersTail_readBack h [] (by omega))

/-! ## Documents -/

/-- A document whose numbers are whole and have 64 bits, and that nests no deeper than so many
levels. -/
inductive Printable : Nat → Json → Prop
  | null {levels : Nat} : Printable levels .null
  | bool {levels : Nat} (b : Bool) : Printable levels (.bool b)
  | int {levels : Nat} {n : Int} (least : Int64.minValue.toInt ≤ n) (most : n < UInt64.size) :
    Printable levels (.int n)
  | str {levels : Nat} (s : String) : Printable levels (.str s)
  | arr {levels : Nat} {items : List Json} (parts : ∀ j ∈ items, Printable levels j) :
    Printable (levels + 1) (.arr items)
  | obj {levels : Nat} {members : List (String × Json)}
    (parts : ∀ m ∈ members, Printable levels m.2) : Printable (levels + 1) (.obj members)

lemma Printable.readBack {j : Json} (h : Printable levels j) : ReadBack levels j := by
  induction h with
  | null => exact readBack_null
  | bool b => exact readBack_bool b
  | int least most => exact readBack_int least most
  | str s => exact readBack_str s
  | arr _ ih => exact readBack_arr ih
  | obj _ ih => exact readBack_obj ih

/-- **A document is read from its text.** -/
theorem Printable.ofText_compact {j : Json} (h : Printable depthLimit j) :
    Draft.ofText j.compact = .ofJson j := by
  have hvalue : value (3 * j.compact.toList.length + 3) depthLimit j.compact.toList =
      (.ofJson j, []) := by
    have hfuel : 3 * (j.compact.toList ++ []).length ≤ 3 * j.compact.toList.length + 2 + 1 := by
      rw [List.append_nil]
      omega
    have hread := h.readBack.value stops_nil hfuel
    rwa [List.append_nil] at hread
  simp only [Draft.ofText, hvalue]
  exact if_pos (Bool.or_true _)

end SpokeSim.Json
