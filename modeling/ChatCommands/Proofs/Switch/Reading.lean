import ChatCommands.Proofs.Switch.Names

/-! # Reading switches

What is read from a text depends on its tokens alone, and tokens that name no declared switch only
add plain text. A text is cut between two tokens, in front of the first that names one.
-/

namespace ChatCommands

open Text

namespace Switch

variable {switches : List Switch} {policy : UnknownPolicy} {developer : Bool}

section Items

theorem map_eq_ok {α β ε : Type} {f : α → β} {r : Except ε α} {b : β} (h : r.map f = .ok b) :
    ∃ a, r = .ok a ∧ b = f a := by
  cases r with
  | error e => cases h
  | ok a =>
    cases h
    exact ⟨a, rfl, rfl⟩

theorem map_eq_error {α β ε : Type} {f : α → β} {r : Except ε α} {e : ε} (h : r.map f = .error e) :
    r = .error e := by
  cases r with
  | error e =>
    cases h
    rfl
  | ok a => cases h

@[simp] theorem switchName?_alone (t : Token) : t.alone.switchName? = t.switchName? :=
  rfl

@[simp] theorem value_alone (t : Token) : t.alone.value = t.value :=
  rfl

/-- Of the switches, only what their names stand for matters, and of the tokens, what they say. -/
theorem items_congr {others : List Switch}
    (h : ∀ name, find? switches developer name = find? others developer name) (ts : List Token) :
    items switches policy developer ts = items others policy developer (ts.map Token.alone) := by
  fun_induction items switches policy developer ts with
  | case1 => rfl
  | case2 t ts hn ih => simp [items, hn, ih]
  | case3 t ts name hn hf hp => simp [items, hn, ← h, hf, hp]
  | case4 t ts name hn hf hp ih =>
    subst hp
    simp [items, hn, ← h, hf, ih]
  | case5 t name hn s hf hv => simp [items, hn, ← h, hf, hv]
  | case6 t name hn s hf hv v ts hs => simp [items, hn, ← h, hf, hv, hs]
  | case7 t name hn s hf hv v ts hs ih => simp [items, hn, ← h, hf, hv, hs, ih]
  | case8 t ts name hn s hf hv ih => simp [items, hn, ← h, hf, hv, ih]

theorem items_map_alone (ts : List Token) :
    items switches policy developer (ts.map Token.alone) = items switches policy developer ts :=
  (items_congr (fun _ => rfl) ts).symm

theorem read_eq (text : List Char) : read switches policy developer text =
    (items switches policy developer (Token.lexemes text)).map fun items =>
      (givenOf items, plainOf items) := by
  rw [read, Token.lexemes, items_map_alone]

theorem read_eq_ok_iff {text rest : List Char} {given : Given} :
    read switches policy developer text = .ok (given, rest) ↔
      ∃ read, items switches policy developer (Token.lexemes text) = .ok read ∧
        givenOf read = given ∧ plainOf read = rest := by
  rw [read_eq]
  cases items switches policy developer (Token.lexemes text) with
  | error e => simp [Except.map]
  | ok read => simp [Except.map]

theorem read_of_blank {text : List Char} (h : isBlank text = true) :
    read switches policy developer text = .ok ([], []) := by
  rw [read_eq, Token.lexemes_of_blank h]
  rfl

theorem named_eq_false_iff {t : Token} : named switches t = false ↔
    ∀ name, t.switchName? = some name → ∀ s ∈ switches, s.answersTo name = false := by
  simp [named, Option.any_eq_false]

@[simp] theorem named_alone (t : Token) : named switches t.alone = named switches t :=
  rfl

theorem named_lexemes {s : List Char} : (∀ t ∈ Token.lexemes s, named switches t = false) ↔
    ∀ t ∈ Token.all true s, named switches t = false := by
  simp only [Token.lexemes, List.forall_mem_map, named_alone]

theorem named_of_switchNames {s x : List Char} (h : Token.switchNames s = Token.switchNames x)
    (hx : ∀ t ∈ Token.all true x, named switches t = false) :
    ∀ t ∈ Token.all true s, named switches t = false := by
  intro t ht
  refine named_eq_false_iff.mpr fun name hname => ?_
  have hmem : name ∈ Token.switchNames s := List.mem_filterMap.mpr ⟨t, ht, hname⟩
  rw [h] at hmem
  obtain ⟨u, hu, hname⟩ := List.mem_filterMap.mp hmem
  exact named_eq_false_iff.mp (hx u hu) name hname

theorem find?_of_unnamed {t : Token} {name : String} (h : named switches t = false)
    (hn : t.switchName? = some name) (developer : Bool) :
    find? switches developer name = none := by
  refine List.find?_eq_none.mpr fun s hs => ?_
  simp [named_eq_false_iff.mp h name hn s hs]

/-- Tokens that name no declared switch are plain text, unless they make the reading fail. -/
theorem items_append_of_unnamed {ts us : List Token} {read : List Item}
    (h : ∀ t ∈ ts, named switches t = false)
    (hread : items switches policy developer (ts ++ us) = .ok read) :
    ∃ rest, items switches policy developer us = .ok rest ∧
      read = ts.map (fun t => .plain t.value) ++ rest := by
  induction ts generalizing read with
  | nil => exact ⟨read, hread, rfl⟩
  | cons t ts ih =>
    have hplain : ∃ others, items switches policy developer (ts ++ us) = .ok others ∧
        read = .plain t.value :: others := by
      rw [List.cons_append, items] at hread
      split at hread
      · exact map_eq_ok hread
      · rename_i name hn
        rw [find?_of_unnamed (h t List.mem_cons_self) hn developer] at hread
        cases policy with
        | fail => cases hread
        | keep => exact map_eq_ok hread
    obtain ⟨others, hothers, rfl⟩ := hplain
    obtain ⟨rest, hrest, rfl⟩ := ih (fun u hu => h u (List.mem_cons_of_mem t hu)) hothers
    exact ⟨rest, hrest, rfl⟩

theorem givenOf_plain_append (ts : List Token) (items : List Item) :
    givenOf (ts.map (fun t => .plain t.value) ++ items) = givenOf items := by
  induction ts with
  | nil => rfl
  | cons t ts ih => exact ih

/-- Tokens that name no declared switch give none, whatever else is read. -/
theorem read_append_of_unnamed {s x rest : List Char} {ts : List Token} {given : Given}
    (hs : Token.lexemes s = ts ++ Token.lexemes x) (hts : ∀ t ∈ ts, named switches t = false)
    (h : read switches policy developer s = .ok (given, rest)) :
    ∃ others, read switches policy developer x = .ok (given, others) := by
  obtain ⟨read, hitems, hgiven, -⟩ := read_eq_ok_iff.mp h
  rw [hs] at hitems
  obtain ⟨others, hothers, rfl⟩ := items_append_of_unnamed hts hitems
  rw [givenOf_plain_append] at hgiven
  exact ⟨plainOf others, read_eq_ok_iff.mpr ⟨others, hothers, hgiven, rfl⟩⟩

end Items

section Cut

/-- Without switches, no token names one. -/
theorem cut?_eq (switches : List Switch) (text : List Char) : cut? switches text =
    ((Token.starts true text).find? fun start => named switches start.2).map fun start =>
      (text.take (text.length - start.1.length), start.1) := by
  unfold cut?
  split
  · rename_i hempty
    rw [List.isEmpty_iff.mp hempty, eq_comm, Option.map_eq_none_iff, List.find?_eq_none]
    intro p _
    simp [named]
  · rfl

theorem cut?_of_unnamed {text : List Char}
    (h : ∀ t ∈ Token.lexemes text, named switches t = false) : cut? switches text = none := by
  rw [cut?_eq, Option.map_eq_none_iff, List.find?_eq_none]
  intro p hp
  simp [named_lexemes.mp h p.2 (List.mem_map_of_mem hp)]

theorem cut?_eq_some {text positional tail : List Char}
    (h : cut? switches text = some (positional, tail)) :
    text = positional ++ tail ∧ Token.Parts positional tail ∧
      (∀ t ∈ Token.all true positional, named switches t = false) ∧
      tail.head? = some '-' := by
  rw [cut?_eq] at h
  obtain ⟨⟨l, t⟩, hfind, heq⟩ := Option.map_eq_some_iff.mp h
  obtain ⟨rfl, rfl⟩ : text.take (text.length - l.length) = positional ∧ l = tail :=
    Prod.mk.inj heq
  have hnamed : named switches t = true := (List.find?_eq_some_iff_append.mp hfind).1
  obtain ⟨ht, -, -, hsuffix⟩ := Token.mem_starts (List.mem_of_find?_eq_some hfind)
  obtain ⟨front, rfl⟩ := hsuffix
  have hpos : (front ++ l).take ((front ++ l).length - l.length) = front := by
    rw [List.length_append, Nat.add_sub_cancel]
    exact List.take_left
  have hparts := Token.Parts.of_mem (List.mem_of_find?_eq_some hfind)
  rw [hpos]
  refine ⟨rfl, hparts, fun u hu => ?_, ?_⟩
  · -- A token in front that names a switch would have been found first.
    obtain ⟨⟨m, u⟩, hm, rfl⟩ := List.mem_map.mp hu
    rw [hparts, List.find?_append, Option.or_eq_some_iff] at hfind
    rcases hfind with hfind | ⟨hnone, -⟩
    · obtain ⟨⟨m', u'⟩, hm', heq⟩ := List.mem_map.mp (List.mem_of_find?_eq_some hfind)
      have hnil : m' = [] := by simpa using (Prod.mk.inj heq).1
      exact absurd hnil (Token.mem_starts hm').2.1
    · have hu := List.find?_eq_none.mp hnone _ (List.mem_map_of_mem hm)
      exact Bool.eq_false_iff.mpr hu
  · obtain ⟨name, hname, -⟩ := (Option.any_eq_true _ _).mp hnamed
    subst ht
    exact Token.head?_of_switchName? hname

theorem cut?_eq_none {text : List Char} (h : cut? switches text = none) :
    ∀ t ∈ Token.all true text, named switches t = false := by
  intro t ht
  rw [cut?_eq] at h
  obtain ⟨⟨l, t⟩, hl, rfl⟩ := List.mem_map.mp ht
  have hnone := List.find?_eq_none.mp (Option.map_eq_none_iff.mp h) (l, t) hl
  simpa using hnone

end Cut

end Switch

end ChatCommands
