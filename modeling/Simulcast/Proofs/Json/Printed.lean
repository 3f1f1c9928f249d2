import Mathlib.Tactic.SplitIfs
import Simulcast.Json.Printer
import Simulcast.Json.Reader

/-!
# Printed values are read back

Each character of a text is printed so that the reader takes just that off the front. So a printed
string is read back with whatever stands behind it, and the same goes, by induction on the value,
for every value without numbers: each other value ends where its text says so itself.
-/

namespace Simulcast.Json

/-! ### Strings -/

theorem unit?_small {n : Nat} (h : n < 16) : unit? '0' '0' '0' n.digitChar = some n := by
  revert n
  decide

theorem unit?_teen {n : Nat} (h : n < 16) : unit? '0' '0' '1' n.digitChar = some (16 + n) := by
  revert n
  decide

theorem hexDigits_teen {n : Nat} (h : 16 ≤ n) (h' : n < 32) :
    Text.hexDigits n = ['1', (n - 16).digitChar] := by
  have hdiv : n / 16 = 1 := by omega
  have hmod : n % 16 = n - 16 := by omega
  rw [Text.hexDigits, Nat.toDigits_of_base_le (by decide) h, hdiv, hmod]
  rfl

theorem readUnits_unescaped {c : Char} (hquote : c ≠ '"') (hback : c ≠ '\\') (hc : 32 ≤ c.toNat)
    (rest : List Char) :
    readUnits (c :: rest) = (readUnits rest).map fun r => (c.toNat :: r.1, r.2) := by
  have hplain : ¬ (c.toNat < 32 ∨ c = '\\') := fun h => h.elim (Nat.not_lt.2 hc) hback
  rw [readUnits.eq_def]
  split
  next h => cases h
  next h => exact (hquote (List.cons.inj h).1).elim
  next h => exact (hback (List.cons.inj h).1).elim
  next h => exact (hback (List.cons.inj h).1).elim
  next h =>
    obtain ⟨rfl, rfl⟩ := List.cons.inj h
    rw [if_neg hplain]

theorem readUnits_escapeChar (c : Char) (rest : List Char) :
    readUnits (escapeChar c ++ rest) = (readUnits rest).map fun r => (c.toNat :: r.1, r.2) := by
  unfold escapeChar
  split_ifs with hquote hback hline htab hreturn hbackspace hfeed hsmall hteen
  · subst hquote; rfl
  · subst hback; rfl
  · subst hline; rfl
  · subst htab; rfl
  · subst hreturn; rfl
  · rw [hbackspace]; rfl
  · rw [hfeed]; rfl
  · rw [Text.hexDigits, Nat.toDigits_of_lt_base hsmall]
    change readUnits ('\\' :: 'u' :: '0' :: '0' :: '0' :: c.toNat.digitChar :: rest) = _
    rw [readUnits, unit?_small hsmall]
  · rw [hexDigits_teen (Nat.le_of_not_lt hsmall) hteen]
    change readUnits ('\\' :: 'u' :: '0' :: '0' :: '1' :: (c.toNat - 16).digitChar :: rest) = _
    rw [readUnits, unit?_teen (by omega), Nat.add_sub_cancel' (Nat.le_of_not_lt hsmall)]
  · exact readUnits_unescaped hquote hback (Nat.le_of_not_lt hteen) rest

theorem readUnits_print (cs rest : List Char) :
    readUnits (cs.flatMap escapeChar ++ '"' :: rest) = some (cs.map Char.toNat, rest) := by
  induction cs with
  | nil => rfl
  | cons c cs ih =>
    rw [List.flatMap_cons, List.append_assoc, readUnits_escapeChar, ih]
    rfl

theorem not_surrogate (c : Char) :
    isHighSurrogate c.toNat = false ∧ isLowSurrogate c.toNat = false := by
  have hvalid : c.toNat < 0xd800 ∨ 0xdfff < c.toNat ∧ c.toNat < 0x110000 := c.valid
  unfold isHighSurrogate isLowSurrogate
  constructor <;> simp <;> omega

theorem pairUnits_toNat (cs : List Char) : pairUnits (cs.map Char.toNat) = some cs := by
  induction cs with
  | nil => rfl
  | cons c cs ih =>
    obtain ⟨hhigh, hlow⟩ := not_surrogate c
    rw [List.map_cons, pairUnits.eq_def]
    dsimp only
    rw [hhigh, hlow, ih, Char.ofNat_toNat]
    rfl

/-- A printed string begins with a quote, and what follows is read back as the string. -/
theorem printString_eq (s : Option String) :
    ∃ body, printString s = '"' :: body ∧ ∀ rest, readString (body ++ rest) = some (s, rest) := by
  cases s with
  | none => exact ⟨_, rfl, fun rest => rfl⟩
  | some s =>
    refine ⟨s.toList.flatMap escapeChar ++ ['"'], rfl, fun rest => ?_⟩
    rw [List.append_assoc, List.singleton_append, readString, readUnits_print, Option.map_some,
      pairUnits_toNat, Option.map_some, String.ofList_toList]

/-! ### Values -/

/-- Values in which there are no numbers. -/
inductive Numberless : Json → Prop
  | null : Numberless .null
  | bool (b : Bool) : Numberless (.bool b)
  | string (s : Option String) : Numberless (.string s)
  | array {items : List Json} (h : ∀ j ∈ items, Numberless j) : Numberless (.array items)
  | object {members : List (Option String × Json)} (h : ∀ m ∈ members, Numberless m.2) :
      Numberless (.object members)

def ReadsBack (j : Json) : Prop :=
  ∀ n rest, (print j).length ≤ n → readValue n (print j ++ rest) = some (j, rest)

variable {j item : Json} {items : List Json} {members : List (Option String × Json)}
  {name : Option String} {n : Nat}

theorem skipSpaces_cons {c : Char} (h : isSpace c = false) (cs : List Char) :
    skipSpaces (c :: cs) = c :: cs := List.dropWhile_cons_of_neg (by rw [h]; decide)

theorem Numberless.print_eq (h : Numberless j) :
    ∃ c cs, print j = c :: cs ∧ isSpace c = false ∧ c ≠ ']' := by
  cases h with
  | null => exact ⟨_, _, rfl, rfl, by decide⟩
  | bool b => cases b <;> exact ⟨_, _, rfl, rfl, by decide⟩
  | string s =>
    obtain ⟨body, hbody, -⟩ := printString_eq s
    exact ⟨'"', body, hbody, rfl, by decide⟩
  | @array items _ => cases items <;> exact ⟨_, _, rfl, rfl, by decide⟩
  | @object members _ => cases members <;> exact ⟨_, _, rfl, rfl, by decide⟩

theorem Numberless.skipSpaces_print (h : Numberless j) (rest : List Char) :
    skipSpaces (print j ++ rest) = print j ++ rest := by
  obtain ⟨c, cs, hprint, hspace, -⟩ := h.print_eq
  rw [hprint, List.cons_append, skipSpaces_cons hspace]

/-! ### Items and members -/

theorem ReadsBack.last_item (h : ReadsBack item) (hn : (print item).length ≤ n)
    (rest : List Char) : readItems (n + 1) (print item ++ ']' :: rest) = some ([item], rest) := by
  rw [readItems.eq_def]
  dsimp only
  rw [h n _ hn]
  rfl

theorem ReadsBack.next_item (h : ReadsBack item) (hn : (print item).length ≤ n) (rest : List Char) :
    readItems (n + 1) (print item ++ ',' :: rest) =
      (readItems n (skipSpaces rest)).map fun r => (item :: r.1, r.2) := by
  rw [readItems.eq_def]
  dsimp only
  rw [h n _ hn]
  rfl

theorem readItems_print (hless : ∀ j ∈ item :: items, Numberless j)
    (h : ∀ j ∈ item :: items, ReadsBack j)
    (hn : (print item).length + (printItems items).length ≤ n) (rest : List Char) :
    readItems n (print item ++ (printItems items ++ rest)) = some (item :: items, rest) := by
  induction items generalizing item n with
  | nil =>
    obtain ⟨n, rfl⟩ := Nat.exists_eq_add_of_le' (Nat.le_of_add_left_le hn)
    exact (h item List.mem_cons_self).last_item (by simp [printItems] at hn; omega) rest
  | cons next items ih =>
    obtain ⟨hitem, hrest⟩ := List.forall_mem_cons.1 h
    obtain ⟨-, hlessrest⟩ := List.forall_mem_cons.1 hless
    simp only [printItems, List.length_append, List.length_cons] at hn
    obtain ⟨n, rfl⟩ : ∃ m, n = m + 1 := ⟨n - 1, by omega⟩
    simp only [printItems, List.cons_append, List.append_assoc]
    rw [hitem.next_item (by omega), (hlessrest next List.mem_cons_self).skipSpaces_print,
      ih hlessrest hrest (by omega)]
    rfl

theorem readMembers_member (hless : Numberless item) (h : ReadsBack item)
    (hn : (print item).length ≤ n) (rest : List Char) :
    readMembers (n + 1) (printString name ++ ':' :: (print item ++ rest)) =
      match skipSpaces rest with
      | ',' :: cs =>
        (readMembers n (skipSpaces cs)).map fun r => ((name, item) :: r.1, r.2)
      | '\x7d' :: cs => some ([(name, item)], cs)
      | _ => none := by
  obtain ⟨body, hname, hread⟩ := printString_eq name
  rw [hname, List.cons_append, readMembers, hread]
  dsimp only
  rw [skipSpaces_cons rfl]
  simp only []
  rewrite [hless.skipSpaces_print, h n _ hn]
  rfl

theorem readMembers_print (hless : ∀ m ∈ (name, item) :: members, Numberless m.2)
    (h : ∀ m ∈ (name, item) :: members, ReadsBack m.2)
    (hn : (print item).length + (printMembers members).length ≤ n) (rest : List Char) :
    readMembers n (printString name ++ ':' :: (print item ++ (printMembers members ++ rest))) =
      some ((name, item) :: members, rest) := by
  induction members generalizing name item n with
  | nil =>
    have hitem : ReadsBack item := h _ List.mem_cons_self
    have hlessitem : Numberless item := hless _ List.mem_cons_self
    simp only [printMembers, List.length_singleton] at hn
    obtain ⟨n, rfl⟩ := Nat.exists_eq_add_of_le' (Nat.le_of_add_left_le hn)
    rw [readMembers_member hlessitem hitem (by omega)]
    rfl
  | cons next members ih =>
    have hitem : ReadsBack item := h _ List.mem_cons_self
    have hlessitem : Numberless item := hless _ List.mem_cons_self
    have hrest := (List.forall_mem_cons.1 h).2
    have hlessrest := (List.forall_mem_cons.1 hless).2
    simp only [printMembers, List.length_append, List.length_cons] at hn
    obtain ⟨n, rfl⟩ : ∃ m, n = m + 1 := ⟨n - 1, by omega⟩
    obtain ⟨body, hname, -⟩ := printString_eq next.1
    have hquote (cs : List Char) : skipSpaces (printString next.1 ++ cs) =
        printString next.1 ++ cs := by rw [hname, List.cons_append, skipSpaces_cons rfl]
    rw [readMembers_member hlessitem hitem (by omega)]
    simp only [printMembers, List.cons_append, List.append_assoc]
    rw [skipSpaces_cons rfl]
    simp only []
    rw [hquote, ih hlessrest hrest (by omega)]
    rfl

/-! ### Whole values -/

/-- No value has an empty text, so the reader may take its first step. -/
theorem Numberless.readsBack_of_step (hless : Numberless j)
    (h : ∀ n rest, (print j).length ≤ n + 1 →
      readValue (n + 1) (print j ++ rest) = some (j, rest)) : ReadsBack j := by
  intro n rest hn
  cases n with
  | zero =>
    obtain ⟨c, cs, hprint, -⟩ := hless.print_eq
    rw [hprint] at hn
    cases hn
  | succ n => exact h n rest hn

theorem Numberless.readsBack (hless : Numberless j) : ReadsBack j := by
  induction hless with
  | null => exact Numberless.null.readsBack_of_step fun n rest _ => rfl
  | bool b => cases b <;> exact (Numberless.bool _).readsBack_of_step fun n rest _ => rfl
  | string s =>
    refine (Numberless.string s).readsBack_of_step fun n rest _ => ?_
    obtain ⟨body, hbody, hread⟩ := printString_eq s
    rw [print, hbody, List.cons_append, readValue, hread]
    rfl
  | @array items hless ih =>
    refine (Numberless.array hless).readsBack_of_step fun n rest hn => ?_
    cases items with
    | nil => rfl
    | cons item items =>
      simp only [print, List.length_cons, List.length_append] at hn
      simp only [print, List.cons_append, List.append_assoc]
      obtain ⟨c, cs, hprint, -, hend⟩ := (hless item List.mem_cons_self).print_eq
      rw [readValue, (hless item List.mem_cons_self).skipSpaces_print, hprint, List.cons_append]
      split
      next h => exact (hend (List.cons.inj h).1).elim
      next =>
        rw [← List.cons_append, ← hprint, readItems_print hless ih (by omega)]
        rfl
  | @object members hless ih =>
    refine (Numberless.object hless).readsBack_of_step fun n rest hn => ?_
    cases members with
    | nil => rfl
    | cons m members =>
      simp only [print, List.length_cons, List.length_append] at hn
      simp only [print, List.cons_append, List.append_assoc]
      have hmembers := readMembers_print hless ih (n := n) (by omega) rest
      obtain ⟨body, hname, -⟩ := printString_eq m.1
      rw [hname, List.cons_append] at hmembers ⊢
      rw [readValue, skipSpaces_cons rfl]
      split
      next h => exact absurd (List.cons.inj h).1 (by decide)
      next =>
        rw [hmembers]
        rfl

theorem read_compact (h : Numberless j) : read (compact j) = some j := by
  have hread := h.readsBack (2 * (print j).length + 1) [] (by omega)
  have hskip := h.skipSpaces_print []
  rw [List.append_nil] at hread hskip
  rw [read, compact, String.toList_ofList, readAll, hskip, hread]
  rfl

theorem readSound_compact (h : Numberless j) (hsound : isSound deepest j = true) :
    readSound (compact j) = some j := by
  rw [readSound, read_compact h, Option.bind_some, if_pos hsound]

theorem compact_injective {j' : Json} (h : Numberless j) (h' : Numberless j')
    (hsame : compact j = compact j') : j = j' := by
  have hread := read_compact h
  rw [hsame, read_compact h'] at hread
  exact (Option.some.inj hread).symm

end Simulcast.Json
