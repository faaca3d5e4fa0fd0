import Mathlib.Algebra.Ring.Nat
import SpokeSim.Proofs.Codec.Faithful
import SpokeSim.Time.Timestamp

/-!
# Reading back a timestamp

Every timestamp has a written form that is read as the same timestamp (`parse_toText`), in years of
four digits and beyond them.  The reader is followed part by part: each `_run` lemma says what one
part makes of the characters in front of it and which characters it leaves, and `run_then` puts
the parts together.  A number ends where the next character is no digit, which is why the lemmas
about numbers ask for that character.
-/

namespace SpokeSim.Time.Timestamp

/-! ## Numbers as they are written -/

/-- Decimal digits that spell a number. -/
structure Spells (ds : List Char) (n : Nat) : Prop where
  isDigit : ∀ c ∈ ds, c.isDigit = true
  value : digitsValue ds = n

lemma padded_spells (width n : Nat) : Spells (padded width n) n where
  isDigit c hc := by
    rcases List.mem_append.1 hc with hc | hc
    · rw [List.eq_of_mem_replicate hc]; rfl
    · exact Nat.isDigit_of_mem_toDigits (by decide) (by decide) hc
  value := by
    have h := Nat.ofDigitChars_append (b := 10) (m := Nat.toDigits 10 n)
      (l := List.replicate (width - (Nat.toDigits 10 n).length) '0') 0
    rw [Nat.ofDigitChars_replicate_zero, Nat.mul_zero, Nat.ofDigitChars_ten_toDigits] at h
    exact h

lemma length_padded {width n : Nat} (hwidth : 0 < width) (h : n < 10 ^ width) :
    (padded width n).length = width := by
  have := (Nat.length_toDigits_le_iff (b := 10) (n := n) (by decide) hwidth).2 h
  simp only [padded, List.length_append, List.length_replicate]
  omega

lemma padded_ne_nil (width n : Nat) : padded width n ≠ [] := by
  simp [padded]

lemma isBlank_of_isDigit {c : Char} (h : c.isDigit = true) : Text.isBlank c = false := by
  simp only [Char.isDigit, Bool.and_eq_true, decide_eq_true_eq] at h
  have h1 : 48 ≤ c.toNat := h.1
  have h2 : c.toNat ≤ 57 := h.2
  simp [Text.isBlank]
  omega

/-! ## The parts of the reader -/

/-- Reading goes on with what the first part has left. -/
lemma run_then {α β : Type} {r : Reader α} {cs rest : List Char} {a : α}
    (h : r.run cs = .ok (a, rest)) (f : α → Reader β) : (r >>= f).run cs = (f a).run rest := by
  rw [StateT.run_bind, h]; rfl

lemma blanks_run {c : Char} (h : Text.isBlank c = false) (cs : List Char) :
    blanks.run (c :: cs) = .ok ((), c :: cs) := by
  show Except.ok ((), Text.dropBlanks (c :: cs)) = _
  rw [Text.dropBlanks, List.dropWhile_cons_of_neg (by simp [h])]

lemma oneOf_run {isGood : Char → Bool} {c : Char} (h : isGood c = true) (cs : List Char) :
    (oneOf isGood).run (c :: cs) = .ok ((), cs) := by
  show (if (!isGood c) = true then (throw .character : Reader Unit) else pure ()).run cs = _
  rw [if_neg (by simp [h])]; rfl

lemma mark_run {m : Char} (h : Text.isBlank m = false) (cs : List Char) :
    (mark m).run (m :: cs) = .ok ((), cs) := by
  simp only [mark, StateT.run_bind, blanks_run h]
  exact oneOf_run (by simp) cs

lemma digit_run {c : Char} (h : c.isDigit = true) (cs : List Char) :
    digit.run (c :: cs) = .ok (c, cs) := by
  show (if c.isDigit = true then (pure c : Reader Char) else throw .character).run cs = _
  rw [if_pos h]; rfl

lemma digits_run {ds : List Char} {n width : Nat} (hs : Spells ds n) (hne : ds ≠ [])
    (hlen : ds.length ≤ width) {c : Char} (hc : c.isDigit = false) (cs : List Char) :
    (digits width).run (ds ++ c :: cs) = .ok (n, c :: cs) := by
  obtain ⟨d, ds, rfl⟩ := List.exists_cons_of_ne_nil hne
  have hrun : ((ds ++ c :: cs).take (width - 1)).takeWhile Char.isDigit = ds := by
    rw [List.length_cons] at hlen
    rw [List.take_append, List.take_of_length_le (by omega),
      List.takeWhile_append_of_pos fun x hx => hs.isDigit x (List.mem_cons_of_mem _ hx)]
    cases width - 1 - ds.length <;> simp [hc]
  simp only [digits, StateT.run_bind, List.cons_append, digit_run (hs.isDigit d List.mem_cons_self)]
  show (Except.ok (digitsValue (d :: ((ds ++ c :: cs).take (width - 1)).takeWhile Char.isDigit),
    (ds ++ c :: cs).drop (((ds ++ c :: cs).take (width - 1)).takeWhile Char.isDigit).length) :
      Except _ _) = _
  rw [hrun, hs.value, List.drop_left]


lemma number_run {ds : List Char} {n least greatest : Nat} (hs : Spells ds n) (hne : ds ≠ [])
    (hlen : ds.length ≤ 2) (hn : least ≤ n ∧ n ≤ greatest) {c : Char} (hc : c.isDigit = false)
    (cs : List Char) : (number least greatest).run (ds ++ c :: cs) = .ok (n, c :: cs) := by
  have hblanks : blanks.run (ds ++ c :: cs) = .ok ((), ds ++ c :: cs) := by
    obtain ⟨d, ds, rfl⟩ := List.exists_cons_of_ne_nil hne
    exact blanks_run (isBlank_of_isDigit (hs.isDigit d List.mem_cons_self)) _
  simp only [number, StateT.run_bind, hblanks]
  show ((digits 2).run (ds ++ c :: cs) >>= _) = _
  rw [digits_run hs hne hlen hc]
  show (if least ≤ n ∧ n ≤ greatest then (pure n : Reader Nat) else throw .range).run (c :: cs) = _
  rw [if_pos hn]; rfl

/-- A number of two digits, padded as it is written. -/
lemma number_padded_run {n least greatest : Nat} (hn : least ≤ n ∧ n ≤ greatest)
    (hlt : n < 100) {c : Char} (hc : c.isDigit = false) (cs : List Char) :
    (number least greatest).run (padded 2 n ++ c :: cs) = .ok (n, c :: cs) :=
  number_run (padded_spells 2 n) (padded_ne_nil 2 n)
    (Nat.le_of_eq (length_padded (by decide) (by omega))) hn hc cs

lemma year_run (y : Int) {c : Char} (hc : c.isDigit = false) (cs : List Char) :
    year.run (yearChars y ++ c :: cs) = .ok (y, c :: cs) := by
  have hspells := padded_spells 4
  have hnil := padded_ne_nil 4
  -- behind a sign the reader takes all digits there are
  have hread : (digits (padded 4 y.natAbs ++ c :: cs).length).run (padded 4 y.natAbs ++ c :: cs)
      = .ok (y.natAbs, c :: cs) :=
    digits_run (hspells y.natAbs) (hnil _) (by simp) hc cs
  unfold yearChars
  split_ifs with hy hneg
  · have hlen : (padded 4 y.toNat).length = 4 := length_padded (by decide) (by omega)
    have hread' := digits_run (hspells y.toNat) (hnil _) (Nat.le_of_eq hlen) hc cs
    obtain ⟨d, ds, hd⟩ := List.exists_cons_of_ne_nil (hnil y.toNat)
    have hdigit : d.isDigit = true := (hspells y.toNat).isDigit d (by simp [hd])
    rw [hd, List.cons_append] at hread' ⊢
    simp only [year, StateT.run_bind, blanks_run (isBlank_of_isDigit hdigit), StateT.run_get]
    refine (pure_bind _ _).trans ((pure_bind _ _).trans ?_)
    dsimp only
    split
    · rename_i heq
      rw [(List.cons.inj heq).1] at hdigit
      simp at hdigit
    · rename_i heq
      rw [(List.cons.inj heq).1] at hdigit
      simp at hdigit
    · simp only [StateT.run_bind, hread']
      show Except.ok ((y.toNat : Int), _) = _
      rw [Int.toNat_of_nonneg hy.1]
  · rw [List.cons_append]
    simp only [year, StateT.run_bind, blanks_run (show Text.isBlank '-' = false by decide)]
    show ((digits _).run (padded 4 y.natAbs ++ c :: cs) >>=
      fun p => Except.ok (-(p.1 : Int), p.2)) = _
    rw [hread]
    show Except.ok (-(y.natAbs : Int), _) = _
    rw [Int.ofNat_natAbs_of_nonpos (Int.le_of_lt hneg), Int.neg_neg]
  · rw [List.cons_append]
    simp only [year, StateT.run_bind, blanks_run (show Text.isBlank '+' = false by decide)]
    show ((digits _).run (padded 4 y.natAbs ++ c :: cs) >>=
      fun p => Except.ok ((p.1 : Int), p.2)) = _
    rw [hread]
    show Except.ok ((y.natAbs : Int), _) = _
    rw [Int.natAbs_of_nonneg (by omega)]

lemma fraction_run (cs : List Char) : fraction.run ('Z' :: cs) = .ok ((), 'Z' :: cs) := rfl

lemma separator_run (cs : List Char) : separator.run ('T' :: cs) = .ok ((), cs) := rfl

lemma zone_run : zone.run ['Z'] = .ok (0, []) := rfl

lemma finish_run : finish.run [] = .ok ((), []) := rfl

/-! ## The whole -/

lemma daysInMonth_le (year : Int) (month : Nat) : daysInMonth year month ≤ 31 := by
  unfold daysInMonth
  split
  case h_12 => split_ifs <;> omega
  all_goals omega

lemma month_bounds {d : Date} (h : d.isValid = true) : 1 ≤ d.month ∧ d.month ≤ 12 := by
  simp only [Date.isValid, Bool.and_eq_true, decide_eq_true_eq] at h
  obtain ⟨⟨-, hone⟩, hdays⟩ := h
  by_contra hout
  have hzero : daysInMonth d.year d.month = 0 := by
    unfold daysInMonth
    split <;> first | rfl | omega
  omega

lemma day_bounds {d : Date} (h : d.isValid = true) : 1 ≤ d.day ∧ d.day ≤ 31 := by
  simp only [Date.isValid, Bool.and_eq_true, decide_eq_true_eq] at h
  exact ⟨h.1.2, Nat.le_trans h.2 (daysInMonth_le d.year d.month)⟩

/-- A time in universal time is its own. -/
lemma ofLocal_zero (t : Timestamp) : ofLocal t.date t.minute t.second 0 = .ok t := by
  have hminute := t.minute_lt
  have hparts : ofParts? t.date t.minute t.second = some t := by
    rw [ofParts?, dif_pos ⟨t.date_valid, t.minute_lt, t.second_le⟩]
  rw [ofLocal, if_pos (by rw [t.date_valid]; rfl)]
  dsimp only
  rw [Int.sub_zero, if_neg (by omega), if_pos (by omega), Int.toNat_natCast, hparts]

/-- **A timestamp is read back as it has been written.** -/
theorem parse_toText (t : Timestamp) : parse? t.toText = some t := by
  have hmonth := month_bounds t.date_valid
  have hday := day_bounds t.date_valid
  have hminute := t.minute_lt
  have hsecond := t.second_le
  have hread : reader.run t.toText.toList = .ok (t, []) := by
    simp only [toText, String.toList_ofList, reader, List.append_assoc, List.cons_append]
    rw [run_then (year_run t.date.year (by decide) _),
      run_then (mark_run (by decide) _),
      run_then (number_padded_run hmonth (by omega) (by decide) _),
      run_then (mark_run (by decide) _),
      run_then (number_padded_run hday (by omega) (by decide) _),
      run_then (separator_run _),
      run_then (number_padded_run (by omega) (by omega) (by decide) _),
      run_then (mark_run (by decide) _),
      run_then (number_padded_run (by omega) (by omega) (by decide) _),
      run_then (mark_run (by decide) _),
      run_then (number_padded_run (by omega) (by omega) (by decide) _),
      run_then (fraction_run _), run_then zone_run, run_then finish_run,
      Nat.div_add_mod' , ofLocal_zero]
    rfl
  rw [parse?, parse]
  show ((reader.run t.toText.toList).map Prod.fst).toOption = some t
  rw [hread]; rfl

instance : codec.Faithful := .spelled parse_toText

end SpokeSim.Time.Timestamp
