/-
A written value is read back.

The writer pushes one piece of a value after another onto what is written already; `written` says what
comes out, one equation for each form of a value. The reader takes it apart again (`read_write`), if it
is a value that the reader has room for: no number with a point or an exponent in it, whose text is
another matter, no integer of more digits than the reader takes, and no deeper nesting (`Readable`).

The induction is on that condition, which says the same of all items and members one level further down.
What is to be shown of a value is stated for whatever follows it and for any fuel that its text is no
longer than (`Reads`). What follows only has to keep a number from going on, and it does: after an
item or a member comes a comma or a closing mark, and after the whole nothing.

No half of a surrogate pair comes out of the writer, so it does not matter which stand-ins the reader has
for them; where a text with halves is put in by hand, each is read as what stands in for it.
-/
import ShaderLint.Proofs.Reading
import ShaderLint.Proofs.WrittenText

set_option autoImplicit false

namespace ShaderLint.Json

/-! ## What is written -/

mutual

/-- A value as it is written. -/
def written : Json → List Char
  | .null => "null".toList
  | .bool b => (if b then "true" else "false").toList
  | .int n => (toString n).toList
  | .real x => (x.text specialWords).toList
  | .str s => '"' :: writtenRest (Text.whole s)
  | .arr [] => ['[', ']']
  | .arr (item :: items) => '[' :: (written item ++ writtenItems items)
  | .obj [] => ['{', '}']
  | .obj ((name, value) :: members) =>
    '{' :: '"' :: (writtenRest (Text.whole name) ++ ':' :: ' ' :: (written value ++ writtenMembers members))

/-- The items of a list after the first, and the mark that closes it. -/
def writtenItems : List Json → List Char
  | [] => [']']
  | item :: items => ',' :: ' ' :: (written item ++ writtenItems items)

/-- The members of an object after the first, and the mark that closes it. -/
def writtenMembers : Members → List Char
  | [] => ['}']
  | (name, value) :: members =>
    ',' :: ' ' :: '"' :: (writtenRest (Text.whole name)
      ++ ':' :: ' ' :: (written value ++ writtenMembers members))

end

mutual

/-- **Each piece comes after what is written already.** -/
theorem toList_push (out : String) : ∀ v : Json, (push out v).toList = out.toList ++ written v
  | .null => by rw [push, written, String.toList_append]
  | .bool b => by rw [push, written, String.toList_append]
  | .int n => by rw [push, written, String.toList_append]
  | .real x => by rw [push, written, String.toList_append]
  | .str s => by rw [push, written, toList_pushText]
  | .arr [] => by
    rw [push, written, String.toList_append]
    rfl
  | .arr (item :: items) => by
    rw [push, written, String.toList_push, toList_pushItems _ items, toList_push _ item,
      String.toList_push]
    simp only [List.append_assoc, List.cons_append, List.nil_append]
  | .obj [] => by
    rw [push, written, String.toList_append]
    rfl
  | .obj ((name, value) :: members) => by
    rw [push, written, String.toList_push, toList_pushMembers _ members, toList_push _ value,
      String.toList_append, toList_pushText, String.toList_push]
    simp only [List.append_assoc, List.cons_append]
    rfl

theorem toList_pushItems (out : String) : ∀ items : List Json,
    (pushItems out items).toList ++ [']'] = out.toList ++ writtenItems items
  | [] => by rw [pushItems, writtenItems]
  | item :: items => by
    rw [pushItems, writtenItems, toList_pushItems _ items, toList_push _ item, String.toList_append]
    simp only [List.append_assoc]
    rfl

theorem toList_pushMembers (out : String) : ∀ members : Members,
    (pushMembers out members).toList ++ ['}'] = out.toList ++ writtenMembers members
  | [] => by rw [pushMembers, writtenMembers]
  | (name, value) :: members => by
    rw [pushMembers, writtenMembers, toList_pushMembers _ members, toList_push _ value,
      String.toList_append, toList_pushText, String.toList_append]
    simp only [List.append_assoc, List.cons_append]
    rfl

end

theorem toList_write (v : Json) : v.write.toList = written v := by
  rw [write, toList_push]
  rfl

/-! ## Integers -/

/-- What follows a value inside a list or an object, or nothing. -/
def Ends (rest : List Char) : Prop := ∀ c ∈ rest.head?, c = ',' ∨ c = ']' ∨ c = '}'

theorem digitsValue_toDigits (n : Nat) : digitsValue (Nat.toDigits 10 n) = n := by
  have hfold : digitsValue (Nat.toDigits 10 n) = Nat.ofDigitChars 10 (Nat.toDigits 10 n) 0 := by
    rw [digitsValue, Nat.ofDigitChars_eq_foldl]
    simp only [Nat.mul_comm 10]
  rw [hfold, Nat.ofDigitChars_ten_toDigits]

/-- No number but zero begins with a zero. -/
theorem head?_toDigits {n : Nat} (hn : 0 < n) : (Nat.toDigits 10 n).head? ≠ some '0' := by
  induction n using Nat.strongRecOn with
  | ind n ih =>
    by_cases hlt : n < 10
    · rw [Nat.toDigits_of_lt_base hlt, List.head?_cons, ne_eq, Option.some.injEq, Nat.digitChar_eq_zero]
      omega
    · have hhead := ih (n / 10) (by omega) (by omega)
      obtain ⟨d, ds, hd⟩ := List.exists_cons_of_ne_nil (@Nat.toDigits_ne_nil (n / 10) 10)
      rw [Nat.toDigits_of_base_le (by decide) (Nat.not_lt.mp hlt), hd]
      rw [hd] at hhead
      exact hhead

theorem exists_toDigits_cons (n : Nat) : ∃ d ds, Nat.toDigits 10 n = d :: ds ∧ d.isDigit = true := by
  obtain ⟨d, ds, hds⟩ := List.exists_cons_of_ne_nil (@Nat.toDigits_ne_nil n 10)
  have hmem : d ∈ Nat.toDigits 10 n := hds ▸ List.mem_cons_self
  exact ⟨d, ds, hds, Nat.isDigit_of_mem_toDigits (by decide) (by decide) hmem⟩

theorem integerPart_toDigits (n : Nat) {rest : List Char} (hrest : Ends rest) :
    integerPart (Nat.toDigits 10 n ++ rest) = Nat.toDigits 10 n := by
  have hdigits : ∀ c ∈ Nat.toDigits 10 n, c.isDigit = true :=
    fun c hc => Nat.isDigit_of_mem_toDigits (by decide) (by decide) hc
  have hnext : ∀ c ∈ rest.head?, c.isDigit = false := by
    intro c hc
    rcases hrest c hc with rfl | rfl | rfl <;> rfl
  obtain ⟨d, ds, hd, -⟩ := exists_toDigits_cons n
  by_cases hn : n = 0
  · rw [hn, Nat.toDigits_zero]
    rfl
  · have hd0 : d ≠ '0' := by
      intro h
      refine head?_toDigits (Nat.pos_of_ne_zero hn) ?_
      rw [hd, List.head?_cons, h]
    have htake := Text.takeWhile_run hdigits hnext
    rw [hd, List.cons_append] at htake ⊢
    rw [integerPart]
    · exact htake
    · rintro _ ⟨⟩
      exact hd0 rfl

/-- **The digits of an integer.** The reader takes all of them and stops where they end. -/
theorem number_toDigits (start : Cursor) (negative : Bool) (position : Nat) {n : Nat} {rest : List Char}
    (hn : (Nat.toDigits 10 n).length ≤ digitLimit) (hrest : Ends rest) :
    ∃ after, number start negative ⟨Nat.toDigits 10 n ++ rest, position⟩
      = .ok (.int (if negative then -(n : Int) else n), ⟨rest, after⟩) := by
  have hwhole := integerPart_toDigits n hrest
  have hfraction : fractionPart rest = [] := by
    unfold fractionPart
    split
    · rename_i more
      rcases hrest '.' rfl with h | h | h <;> contradiction
    · rfl
  have hexponent : exponentPart? rest = none := by
    rcases rest with _ | ⟨c, rest⟩
    · rfl
    · have hc : ¬ (c = 'e' ∨ c = 'E') := by
        rcases hrest c rfl with rfl | rfl | rfl <;> decide
      simp only [exponentPart?, if_neg hc]
  have hskip : Cursor.skip ⟨Nat.toDigits 10 n ++ rest, position⟩ (Nat.toDigits 10 n).length
      = ⟨rest, position + (Nat.toDigits 10 n).length⟩ := by
    rw [Cursor.skip, List.drop_left]
  have hvalue := digitsValue_toDigits n
  refine ⟨position + (Nat.toDigits 10 n).length, ?_⟩
  obtain ⟨d, ds, hd, -⟩ := exists_toDigits_cons n
  rw [hd] at hn hwhole hskip hvalue ⊢
  rw [number]
  simp only [hwhole, hskip, hfraction, List.isEmpty_nil, if_true, hexponent, hvalue,
    if_neg (Nat.not_lt.mpr hn)]
  rfl

/-- A minus, if there has to be one, and the digits. -/
theorem toList_toString (n : Int) :
    (toString n).toList = (if n < 0 then ['-'] else []) ++ Nat.toDigits 10 n.natAbs := by
  cases n with
  | ofNat m => exact Nat.toList_repr
  | negSucc m =>
    have hrepr : toString (Int.negSucc m) = "-" ++ (m + 1).repr := rfl
    rw [hrepr, String.toList_append, Nat.toList_repr, if_pos (Int.negSucc_lt_zero m)]
    rfl

/-- A text with a digit at one of its first two places is no word. -/
theorem word?_eq_none {cs : List Char} (h : (cs.take 2).any Char.isDigit = true) (position : Nat) :
    word? ⟨cs, position⟩ = none := by
  have hwords : words.all (fun word => decide (2 ≤ word.1.toList.length)
      && !(word.1.toList.take 2).any Char.isDigit) = true := by decide
  rw [word?, List.findSome?_eq_none_iff]
  intro word hword
  have hname := List.all_eq_true.mp hwords word hword
  rw [Bool.and_eq_true, decide_eq_true_eq, Bool.not_eq_true'] at hname
  refine if_neg fun hfront => ?_
  obtain ⟨more, rfl⟩ := List.isPrefixOf_iff_prefix.mp hfront
  rw [List.take_append_of_le_length hname.1, hname.2] at h
  contradiction

theorem scalar_digit {d : Char} (hd : d.isDigit = true) (cs : List Char) (position : Nat) :
    scalar ⟨d :: cs, position⟩ = number ⟨d :: cs, position⟩ false ⟨d :: cs, position⟩ := by
  have hword : word? ⟨d :: cs, position⟩ = none := word?_eq_none (by simp [hd]) position
  rw [scalar, hword]
  dsimp only
  split
  · rename_i heq
    rw [List.cons.injEq] at heq
    rw [heq.1] at hd
    contradiction
  · rfl

theorem scalar_minus {d : Char} (hd : d.isDigit = true) (cs : List Char) (position : Nat) :
    scalar ⟨'-' :: d :: cs, position⟩
      = number ⟨'-' :: d :: cs, position⟩ true ⟨d :: cs, position + 1⟩ := by
  have hword : word? ⟨'-' :: d :: cs, position⟩ = none := word?_eq_none (by simp [hd]) position
  rw [scalar, hword]
  rfl

/-- **An integer.** It begins no word, and the reader takes its sign and its digits. -/
theorem scalar_toString (n : Int) (position : Nat) {rest : List Char}
    (hn : (Nat.toDigits 10 n.natAbs).length ≤ digitLimit) (hrest : Ends rest) :
    ∃ after, scalar ⟨(toString n).toList ++ rest, position⟩ = .ok (.int n, ⟨rest, after⟩) := by
  obtain ⟨d, ds, hds, hd⟩ := exists_toDigits_cons n.natAbs
  rw [toList_toString]
  by_cases hneg : n < 0
  · obtain ⟨after, hread⟩ := number_toDigits ⟨'-' :: d :: (ds ++ rest), position⟩ true (position + 1)
      hn hrest
    have hvalue : -(n.natAbs : Int) = n := by omega
    rw [if_pos rfl, hvalue, hds, List.cons_append] at hread
    rw [if_pos hneg, hds, List.singleton_append, List.cons_append, List.cons_append, scalar_minus hd]
    exact ⟨after, hread⟩
  · obtain ⟨after, hread⟩ := number_toDigits ⟨d :: (ds ++ rest), position⟩ false position hn hrest
    have hvalue : (n.natAbs : Int) = n := by omega
    rw [if_neg (by decide), hvalue, hds, List.cons_append] at hread
    rw [if_neg hneg, hds, List.nil_append, List.cons_append, scalar_digit hd]
    exact ⟨after, hread⟩

/-! ## Values

What the reader has room for is a condition on a value and the depth that it stands at. -/

/-- No number with a point or an exponent, and no longer integer and no deeper nesting than the reader
takes. -/
inductive Readable : Nat → Json → Prop where
  | null (depth : Nat) : Readable depth .null
  | bool (depth : Nat) (b : Bool) : Readable depth (.bool b)
  | int (depth : Nat) {n : Int} (hn : (Nat.toDigits 10 n.natAbs).length ≤ digitLimit) :
    Readable depth (.int n)
  | str (depth : Nat) (s : String) : Readable depth (.str s)
  | arr {depth : Nat} {items : List Json} (hdepth : depth < nestingLimit)
    (hitems : ∀ item ∈ items, Readable (depth + 1) item) : Readable depth (.arr items)
  | obj {depth : Nat} {members : Members} (hdepth : depth < nestingLimit)
    (hmembers : ∀ member ∈ members, Readable (depth + 1) member.2) : Readable depth (.obj members)

/-- A text begins as neither a space nor the end of a list does, and it is read as a value whatever
comes after it, if that ends it. -/
structure Reads (set : Text.StandIns) (depth : Nat) (text : List Char) (v : Json) : Prop where
  begins : ∃ c cs, text = c :: cs ∧ isSpace c = false ∧ c ≠ ']'
  reads : ∀ (fuel position : Nat) (rest : List Char), text.length ≤ fuel → Ends rest →
    ∃ after, value set fuel depth ⟨text ++ rest, position⟩ = .ok (v, ⟨rest, after⟩)

/-- A value is read back from what is written of it. -/
abbrev ReadsBack (set : Text.StandIns) (depth : Nat) (v : Json) : Prop :=
  Reads set depth (written v) v

theorem ends_writtenItems (items : List Json) (rest : List Char) :
    Ends (writtenItems items ++ rest) := by
  intro c hc
  cases items with
  | nil =>
    cases hc
    exact .inr (.inl rfl)
  | cons item items =>
    cases hc
    exact .inl rfl

theorem ends_writtenMembers (members : Members) (rest : List Char) :
    Ends (writtenMembers members ++ rest) := by
  intro c hc
  cases members with
  | nil =>
    cases hc
    exact .inr (.inr rfl)
  | cons member members =>
    cases hc
    exact .inl rfl

variable {set : Text.StandIns}

/-! ### Where the reader stands -/

section Cursor

variable {c : Char} (rest : List Char) (position : Nat)

theorem skip_one : Cursor.skip ⟨c :: rest, position⟩ 1 = ⟨rest, position + 1⟩ := rfl

theorem skipSpaces_of_not_space (h : isSpace c = false) :
    Cursor.skipSpaces ⟨c :: rest, position⟩ = ⟨c :: rest, position⟩ := by
  have hnone : (c :: rest).takeWhile isSpace = [] :=
    List.takeWhile_cons_of_neg (by rw [h]; decide)
  rw [Cursor.skipSpaces, hnone]
  rfl

theorem skipSpaces_space (h : isSpace c = false) :
    Cursor.skipSpaces ⟨' ' :: c :: rest, position⟩ = ⟨c :: rest, position + 1⟩ := by
  have hone : (' ' :: c :: rest).takeWhile isSpace = [' '] := by
    rw [List.takeWhile_cons_of_pos (by decide), List.takeWhile_cons_of_neg (by rw [h]; decide)]
  rw [Cursor.skipSpaces, hone]
  rfl

end Cursor

/-! ### One item or member

The reader takes it and is either at the closing mark or before the next one. -/

section One

variable {fuel depth : Nat} {text : List Char} {v : Json} (hv : Reads set depth text v)
  (hfuel : text.length ≤ fuel) (position : Nat) (rest : List Char)

include hv hfuel

theorem items_last (done : List Json) :
    ∃ after, items set (fuel + 1) depth done ⟨text ++ ']' :: rest, position⟩
      = .ok (.arr (v :: done).reverse, ⟨rest, after⟩) := by
  obtain ⟨after, hread⟩ := hv.reads fuel position _ hfuel (ends_writtenItems [] rest)
  have hclosed := skipSpaces_of_not_space (c := ']') rest after rfl
  refine ⟨after + 1, ?_⟩
  rw [writtenItems, List.singleton_append] at hread
  rw [items, hread]
  simp only [hclosed]
  rfl

theorem items_more (done : List Json) {c : Char} (hc : isSpace c = false) :
    ∃ after, items set (fuel + 1) depth done ⟨text ++ ',' :: ' ' :: c :: rest, position⟩
      = items set fuel depth (v :: done) ⟨c :: rest, after⟩ := by
  have hends : Ends (',' :: ' ' :: c :: rest) := fun b hb => .inl (Option.some.inj hb).symm
  obtain ⟨after, hread⟩ := hv.reads fuel position _ hfuel hends
  have hcomma := skipSpaces_of_not_space (c := ',') (' ' :: c :: rest) after rfl
  have hspace := skipSpaces_space rest (after + 1) hc
  refine ⟨after + 2, ?_⟩
  rw [items, hread]
  simp only [hcomma, skip_one, hspace]

/-- The name of a member is read, and then its value. -/
theorem exists_read_member (name : String) {more : List Char} (hmore : Ends more) :
    ∃ colon after,
      textAfterQuote set ⟨writtenRest (Text.whole name) ++ ':' :: ' ' :: (text ++ more), position + 1⟩
        = .ok (name, ⟨':' :: ' ' :: (text ++ more), colon⟩)
      ∧ Cursor.skipSpaces ⟨' ' :: (text ++ more), colon + 1⟩ = ⟨text ++ more, colon + 2⟩
      ∧ value set fuel depth ⟨text ++ more, colon + 2⟩ = .ok (v, ⟨more, after⟩) := by
  obtain ⟨colon, hname⟩ :=
    textAfterQuote_writtenRest set (apart_whole name) (':' :: ' ' :: (text ++ more)) (position + 1)
  rw [Text.StandIns.fill_whole] at hname
  obtain ⟨after, hread⟩ := hv.reads fuel (colon + 2) more hfuel hmore
  obtain ⟨c, cs, hcs, hc, -⟩ := hv.begins
  refine ⟨colon, after, hname, ?_, hread⟩
  rw [hcs, List.cons_append]
  exact skipSpaces_space (cs ++ more) (colon + 1) hc

theorem members_last (done : Members) (name : String) :
    ∃ after, members set (fuel + 1) depth done
        ⟨'"' :: (writtenRest (Text.whole name) ++ ':' :: ' ' :: (text ++ '}' :: rest)), position⟩
      = .ok (.obj ((name, v) :: done).reverse, ⟨rest, after⟩) := by
  obtain ⟨colon, after, hname, hspace, hread⟩ :=
    exists_read_member hv hfuel position name (ends_writtenMembers [] rest)
  rw [writtenMembers, List.singleton_append] at hname hspace hread
  have hcolon := skipSpaces_of_not_space (c := ':') (' ' :: (text ++ '}' :: rest)) colon rfl
  have hclosed := skipSpaces_of_not_space (c := '}') rest after rfl
  refine ⟨after + 1, ?_⟩
  rw [members]
  simp only [skip_one, hname, hcolon, hspace, hread, hclosed]

theorem members_more (done : Members) (name : String) :
    ∃ after, members set (fuel + 1) depth done
        ⟨'"' :: (writtenRest (Text.whole name)
          ++ ':' :: ' ' :: (text ++ ',' :: ' ' :: '"' :: rest)), position⟩
      = members set fuel depth ((name, v) :: done) ⟨'"' :: rest, after⟩ := by
  have hends : Ends (',' :: ' ' :: '"' :: rest) := fun b hb => .inl (Option.some.inj hb).symm
  obtain ⟨colon, after, hname, hspace, hread⟩ := exists_read_member hv hfuel position name hends
  have hcolon := skipSpaces_of_not_space (c := ':')
    (' ' :: (text ++ ',' :: ' ' :: '"' :: rest)) colon rfl
  have hcomma := skipSpaces_of_not_space (c := ',') (' ' :: '"' :: rest) after rfl
  have hquote := skipSpaces_space (c := '"') rest (after + 1) rfl
  refine ⟨after + 2, ?_⟩
  rw [members]
  simp only [skip_one, hname, hcolon, hspace, hread, hcomma, hquote]

end One

/-! ### Lists and objects -/

/-- **Items.** From an item on, the reader takes it and those after it up to the closing bracket. -/
theorem items_written {depth : Nat} {item : Json} {more : List Json}
    (h : ∀ v ∈ item :: more, ReadsBack set depth v) (fuel position : Nat) (done : List Json)
    (rest : List Char) (hfuel : (written item ++ writtenItems more).length ≤ fuel) :
    ∃ after, items set fuel depth done ⟨written item ++ (writtenItems more ++ rest), position⟩
      = .ok (.arr (done.reverse ++ item :: more), ⟨rest, after⟩) := by
  induction more generalizing item fuel position done with
  | nil =>
    rw [writtenItems, List.length_append, List.length_singleton] at hfuel
    obtain ⟨fuel, rfl⟩ : ∃ n, fuel = n + 1 := ⟨fuel - 1, by omega⟩
    obtain ⟨after, hlast⟩ :=
      items_last (h item List.mem_cons_self) (Nat.le_of_succ_le_succ hfuel) position rest done
    rw [List.reverse_cons] at hlast
    exact ⟨after, hlast⟩
  | cons second more ih =>
    obtain ⟨hitem, hmore⟩ := List.forall_mem_cons.mp h
    rw [writtenItems, List.length_append, List.length_cons, List.length_cons] at hfuel
    obtain ⟨fuel, rfl⟩ : ∃ n, fuel = n + 1 := ⟨fuel - 1, by omega⟩
    have hlength : (written item).length ≤ fuel := by omega
    obtain ⟨c, cs, hsecond, hc, -⟩ := (hmore second List.mem_cons_self).begins
    obtain ⟨after, hitem⟩ := items_more hitem hlength position
      (cs ++ (writtenItems more ++ rest)) done hc
    obtain ⟨last, hlast⟩ := ih hmore fuel after (item :: done) (by omega)
    refine ⟨last, ?_⟩
    rw [hsecond, List.cons_append] at hlast
    rw [writtenItems, List.cons_append, List.cons_append, List.append_assoc, hsecond, List.cons_append,
      hitem, hlast, List.reverse_cons, List.append_assoc]
    rfl

/-- **Members.** From a name on, the reader takes its member and those after it up to the closing
brace. -/
theorem members_written {depth : Nat} {name : String} {v : Json} {more : Members}
    (h : ∀ member ∈ (name, v) :: more, ReadsBack set depth member.2) (fuel position : Nat) (done : Members)
    (rest : List Char) (hfuel : (written v ++ writtenMembers more).length ≤ fuel) :
    ∃ after, members set fuel depth done
        ⟨'"' :: (writtenRest (Text.whole name)
          ++ ':' :: ' ' :: (written v ++ (writtenMembers more ++ rest))), position⟩
      = .ok (.obj (done.reverse ++ (name, v) :: more), ⟨rest, after⟩) := by
  induction more generalizing name v fuel position done with
  | nil =>
    rw [writtenMembers, List.length_append, List.length_singleton] at hfuel
    obtain ⟨fuel, rfl⟩ : ∃ n, fuel = n + 1 := ⟨fuel - 1, by omega⟩
    obtain ⟨after, hlast⟩ := members_last (h (name, v) List.mem_cons_self)
      (Nat.le_of_succ_le_succ hfuel) position rest done name
    rw [List.reverse_cons] at hlast
    exact ⟨after, hlast⟩
  | cons second more ih =>
    obtain ⟨name', v'⟩ := second
    obtain ⟨hv, hmore⟩ := List.forall_mem_cons.mp h
    rw [writtenMembers, List.length_append, List.length_cons, List.length_cons, List.length_cons,
      List.length_append, List.length_cons, List.length_cons] at hfuel
    obtain ⟨fuel, rfl⟩ : ∃ n, fuel = n + 1 := ⟨fuel - 1, by omega⟩
    have hlength : (written v).length ≤ fuel := by omega
    obtain ⟨after, hv⟩ := members_more hv hlength position
      (writtenRest (Text.whole name') ++ ':' :: ' ' :: (written v' ++ (writtenMembers more ++ rest))) done name
    obtain ⟨last, hlast⟩ := ih hmore fuel after ((name, v) :: done) (by omega)
    refine ⟨last, ?_⟩
    rw [hlast, List.reverse_cons, List.append_assoc] at hv
    simp only [writtenMembers, List.cons_append, List.append_assoc]
    exact hv

/-! ### All values -/

/-- What begins as no text, list or object does is a word or a number. -/
theorem value_scalar {c : Char} (h : c ≠ '"' ∧ c ≠ '[' ∧ c ≠ '{') (fuel depth : Nat) (cs : List Char)
    (position : Nat) :
    value set (fuel + 1) depth ⟨c :: cs, position⟩ = scalar ⟨c :: cs, position⟩ := by
  obtain ⟨hquote, hbracket, hbrace⟩ := h
  rw [value]
  split
  · rename_i heq
    exact absurd (List.cons.inj heq).1 hquote
  · rename_i heq
    exact absurd (List.cons.inj heq).1 hbracket
  · rename_i heq
    exact absurd (List.cons.inj heq).1 hbrace
  · rfl

/-- The text of a value is not empty, so there is fuel for a step. -/
theorem reads_of_step {depth : Nat} {text : List Char} {v : Json} {c : Char} {cs : List Char}
    (hcs : text = c :: cs) (hspace : isSpace c = false) (hclose : c ≠ ']')
    (h : ∀ (fuel position : Nat) (rest : List Char), text.length ≤ fuel + 1 → Ends rest →
      ∃ after, value set (fuel + 1) depth ⟨text ++ rest, position⟩ = .ok (v, ⟨rest, after⟩)) :
    Reads set depth text v := by
  refine ⟨⟨c, cs, hcs, hspace, hclose⟩, fun fuel position rest hfuel hrest => ?_⟩
  rcases fuel with _ | fuel
  · rw [hcs] at hfuel
    contradiction
  · exact h fuel position rest hfuel hrest

/-- A value whose text is a word or a number. -/
theorem readsBack_of_scalar {v : Json} {c : Char} {cs : List Char} (depth : Nat)
    (hcs : written v = c :: cs) (hspace : isSpace c = false)
    (hmark : c ≠ '"' ∧ c ≠ '[' ∧ c ≠ '{' ∧ c ≠ ']')
    (h : ∀ (position : Nat) (rest : List Char), Ends rest →
      ∃ after, scalar ⟨written v ++ rest, position⟩ = .ok (v, ⟨rest, after⟩)) :
    ReadsBack set depth v := by
  obtain ⟨hquote, hbracket, hbrace, hclose⟩ := hmark
  refine reads_of_step hcs hspace hclose fun fuel position rest _ hrest => ?_
  obtain ⟨after, hread⟩ := h position rest hrest
  rw [hcs, List.cons_append] at hread ⊢
  rw [value_scalar ⟨hquote, hbracket, hbrace⟩, hread]
  exact ⟨after, rfl⟩

section Nested

variable {depth : Nat} (hdepth : depth < nestingLimit) (fuel : Nat) (rest : List Char) (position : Nat)

include hdepth

theorem value_emptyList : value set (fuel + 1) depth ⟨'[' :: ']' :: rest, position⟩
    = .ok (.arr [], ⟨rest, position + 2⟩) := by
  have hclosed := skipSpaces_of_not_space (c := ']') rest (position + 1) rfl
  rw [value]
  simp only [if_neg (Nat.not_le.mpr hdepth), skip_one, hclosed]

theorem value_list {c : Char} (hc : isSpace c = false) (hclose : c ≠ ']') :
    value set (fuel + 1) depth ⟨'[' :: c :: rest, position⟩
      = items set fuel (depth + 1) [] ⟨c :: rest, position + 1⟩ := by
  have hinside := skipSpaces_of_not_space rest (position + 1) hc
  rw [value]
  simp only [if_neg (Nat.not_le.mpr hdepth), skip_one, hinside]
  split
  · rename_i heq
    exact absurd (List.cons.inj heq).1 hclose
  · rfl

theorem value_emptyObject : value set (fuel + 1) depth ⟨'{' :: '}' :: rest, position⟩
    = .ok (.obj [], ⟨rest, position + 2⟩) := by
  have hclosed := skipSpaces_of_not_space (c := '}') rest (position + 1) rfl
  rw [value]
  simp only [if_neg (Nat.not_le.mpr hdepth), skip_one, hclosed]

theorem value_object : value set (fuel + 1) depth ⟨'{' :: '"' :: rest, position⟩
    = members set fuel (depth + 1) [] ⟨'"' :: rest, position + 1⟩ := by
  have hinside := skipSpaces_of_not_space (c := '"') rest (position + 1) rfl
  rw [value]
  simp only [if_neg (Nat.not_le.mpr hdepth), skip_one, hinside]
  rfl

end Nested

theorem readsBack_int (depth : Nat) {n : Int} (hn : (Nat.toDigits 10 n.natAbs).length ≤ digitLimit) :
    ReadsBack set depth (.int n) := by
  obtain ⟨d, ds, hds, hd⟩ := exists_toDigits_cons n.natAbs
  have hread := fun position (rest : List Char) => @scalar_toString n position rest hn
  have hne : ∀ c : Char, c.isDigit = false → d ≠ c := by
    rintro c hc rfl
    rw [hd] at hc
    contradiction
  by_cases hneg : n < 0
  · have hcs : written (.int n) = '-' :: d :: ds := by
      rw [written, toList_toString, if_pos hneg, hds]
      rfl
    exact readsBack_of_scalar depth hcs rfl (by decide) hread
  · have hcs : written (.int n) = d :: ds := by
      rw [written, toList_toString, if_neg hneg, hds]
      rfl
    have hspace : isSpace d = false := by
      simp only [isSpace, Bool.or_eq_false_iff, beq_eq_false_iff_ne]
      exact ⟨⟨⟨hne ' ' rfl, hne '\t' rfl⟩, hne '\n' rfl⟩, hne '\r' rfl⟩
    exact readsBack_of_scalar depth hcs hspace
      ⟨hne '"' rfl, hne '[' rfl, hne '{' rfl, hne ']' rfl⟩ hread

/-- A text is read with stand-ins for the halves in it. -/
theorem reads_text (depth : Nat) {points : List Text.Point} (h : Apart points) :
    Reads set depth ('"' :: writtenRest points) (.str (set.fill points)) := by
  refine reads_of_step (c := '"') rfl rfl (by decide) fun fuel position rest _ _ => ?_
  obtain ⟨after, hread⟩ := textAfterQuote_writtenRest set h rest (position + 1)
  refine ⟨after, ?_⟩
  rw [List.cons_append, value]
  simp only [skip_one, hread]
  rfl

theorem readsBack_str (depth : Nat) (s : String) : ReadsBack set depth (.str s) := by
  have h : Reads set depth ('"' :: writtenRest (Text.whole s)) (.str (set.fill (Text.whole s))) :=
    reads_text depth (apart_whole s)
  rw [Text.StandIns.fill_whole] at h
  exact h

theorem readsBack_arr {depth : Nat} (hdepth : depth < nestingLimit) {items : List Json}
    (h : ∀ item ∈ items, ReadsBack set (depth + 1) item) : ReadsBack set depth (.arr items) := by
  rcases items with _ | ⟨item, more⟩
  · refine reads_of_step (c := '[') rfl rfl (by decide) fun fuel position rest _ _ => ?_
    exact ⟨position + 2, value_emptyList hdepth fuel rest position⟩
  · refine reads_of_step (c := '[') rfl rfl (by decide) fun fuel position rest hfuel _ => ?_
    rw [written, List.length_cons] at hfuel
    obtain ⟨c, cs, hcs, hc, hclose⟩ := (h item List.mem_cons_self).begins
    obtain ⟨after, hread⟩ :=
      items_written h fuel (position + 1) [] rest (Nat.le_of_succ_le_succ hfuel)
    refine ⟨after, ?_⟩
    rw [hcs, List.cons_append] at hread
    rw [written, List.cons_append, List.append_assoc, hcs, List.cons_append,
      value_list hdepth fuel _ position hc hclose, hread]
    rfl

theorem readsBack_obj {depth : Nat} (hdepth : depth < nestingLimit) {members : Members}
    (h : ∀ member ∈ members, ReadsBack set (depth + 1) member.2) : ReadsBack set depth (.obj members) := by
  rcases members with _ | ⟨⟨name, v⟩, more⟩
  · refine reads_of_step (c := '{') rfl rfl (by decide) fun fuel position rest _ _ => ?_
    exact ⟨position + 2, value_emptyObject hdepth fuel rest position⟩
  · refine reads_of_step (c := '{') rfl rfl (by decide) fun fuel position rest hfuel _ => ?_
    rw [written, List.length_cons, List.length_cons, List.length_append, List.length_cons,
      List.length_cons] at hfuel
    have hlength : (written v ++ writtenMembers more).length ≤ fuel := by omega
    obtain ⟨after, hread⟩ := members_written h fuel (position + 1) [] rest hlength
    refine ⟨after, ?_⟩
    simp only [written, List.cons_append, List.append_assoc]
    rw [value_object hdepth fuel _ position, hread]
    rfl

/-- An object of one member, given the text of its value. -/
def memberText (name : String) (text : List Char) : List Char :=
  '{' :: '"' :: (writtenRest (Text.whole name) ++ ':' :: ' ' :: (text ++ ['}']))

theorem reads_memberText {depth : Nat} (hdepth : depth < nestingLimit) (name : String)
    {text : List Char} {v : Json} (h : Reads set (depth + 1) text v) :
    Reads set depth (memberText name text) (.obj [(name, v)]) := by
  refine reads_of_step (c := '{') rfl rfl (by decide) fun fuel position rest hfuel _ => ?_
  have hlength : text.length + 1 ≤ fuel := by
    simp only [memberText, List.length_cons, List.length_append] at hfuel
    omega
  obtain ⟨fuel, rfl⟩ : ∃ n, fuel = n + 1 := ⟨fuel - 1, by omega⟩
  obtain ⟨after, hread⟩ := members_last h (Nat.le_of_succ_le_succ hlength) (position + 1) rest [] name
  refine ⟨after, ?_⟩
  simp only [memberText, List.cons_append, List.append_assoc, List.nil_append]
  rw [value_object hdepth (fuel + 1) _ position, hread]
  rfl

/-- **Every value that there is room for is read back.** -/
theorem readsBack_of_readable {depth : Nat} {v : Json} (h : Readable depth v) : ReadsBack set depth v := by
  induction h with
  | null depth =>
    exact readsBack_of_scalar depth (c := 'n') rfl rfl (by decide) fun position rest _ => ⟨_, rfl⟩
  | bool depth b =>
    cases b with
    | false =>
      exact readsBack_of_scalar depth (c := 'f') rfl rfl (by decide) fun position rest _ => ⟨_, rfl⟩
    | true =>
      exact readsBack_of_scalar depth (c := 't') rfl rfl (by decide) fun position rest _ => ⟨_, rfl⟩
  | int depth hn => exact readsBack_int depth hn
  | str depth s => exact readsBack_str depth s
  | arr hdepth hitems ih => exact readsBack_arr hdepth ih
  | obj hdepth hmembers ih => exact readsBack_obj hdepth ih

/-- A text that is read as a value with nothing after it. -/
theorem Reads.read {text : List Char} {v : Json} (h : Reads set 0 text v) :
    read text set = .ok v := by
  obtain ⟨c, cs, hcs, hc, -⟩ := h.begins
  have hnone : Ends [] := fun c hc => absurd hc (Option.not_mem_none c)
  obtain ⟨after, hread⟩ := h.reads (2 * text.length + 2) 0 [] (by omega) hnone
  have hstart : Cursor.skipSpaces ⟨text, 0⟩ = ⟨text, 0⟩ := by
    rw [hcs]
    exact skipSpaces_of_not_space cs 0 hc
  rw [List.append_nil] at hread
  rw [Json.read, hstart, hread]
  rfl

/-- **A written value is read back,** if the reader has room for it. -/
theorem read_write {v : Json} (h : Readable 0 v) : read v.write.toList set = .ok v := by
  rw [toList_write]
  exact (readsBack_of_readable h).read

end ShaderLint.Json
