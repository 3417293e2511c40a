import VoxelGI.Proofs.Tokens

/-! Members on lines of their own are gathered again. Reading passes over the layout in front of each
of them, and over the comma and the line end after it; one law covers the items of a list and the
fields of a record, which differ in what a member does to the state. -/
namespace VoxelGI.Document

section Layout

variable {cs rest : List Char}

theorem skip_other {c : Char} (slash : c ≠ '/') (cs : List Char) :
    skip .outside (c :: cs) = if isSpace c then skip .outside cs else .ok (c :: cs) := by
  rw [skip.eq_4 c cs (fun _ h => absurd h slash) (fun _ h => absurd h slash), if_neg slash]

theorem skip_space {c : Char} (space : isSpace c = true) (cs : List Char) :
    skip .outside (c :: cs) = skip .outside cs := by
  have slash : c ≠ '/' := by
    rintro rfl
    cases space
  rw [skip_other slash, if_pos space]

theorem skip_solid {c : Char} (solid : isSpace c = false) (slash : c ≠ '/') (cs : List Char) :
    skip .outside (c :: cs) = .ok (c :: cs) := by
  rw [skip_other slash, solid]
  rfl

theorem skip_indent (depth : Nat) (cs : List Char) :
    skip .outside (indent depth ++ cs) = skip .outside cs := by
  rw [indent]
  induction 2 * depth with
  | zero => rfl
  | succ n ih =>
    rw [List.replicate_succ, List.cons_append, skip_space rfl, ih]

theorem skip_opens (h : Opens cs) : skip .outside cs = .ok cs := by
  cases cs with
  | nil => cases h
  | cons c cs =>
    simp only [Opens, List.head?_cons, Option.any_some, isOpener, Bool.and_eq_true,
      Bool.not_eq_true', bne_iff_ne] at h
    exact skip_solid h.1.1.1 h.1.1.2 cs

theorem skip_again {l : Layout} (skipped : skip l cs = .ok rest) : skip .outside rest = .ok rest := by
  fun_induction skip l cs with
  | case1 | case7 =>
    cases skipped
    rfl
  | case6 c cs _ _ solid slash =>
    cases skipped
    exact skip_solid (Bool.eq_false_of_not_eq_true solid) slash cs
  | _ => simp_all

theorem length_skip {l : Layout} (skipped : skip l cs = .ok rest) : rest.length ≤ cs.length := by
  fun_induction skip l cs with
  | case1 | case6 | case7 =>
    cases skipped
    exact Nat.le_refl _
  | _ => grind

end Layout

section Punctuation

variable {cs rest left : List Char}

theorem space_ok (skipped : skip .outside cs = .ok left) : space cs = .ok ((), left) := by
  rw [space, skipped]
  rfl

theorem comma_comma (skipped : skip .outside rest = .ok left) :
    comma (',' :: rest) = .ok (true, left) := by
  have before : space (',' :: rest) = .ok ((), ',' :: rest) := space_ok (skip_solid rfl (by decide) _)
  have taken : accept [','] (',' :: rest) = .ok (true, rest) := rfl
  exact (bind_ok before).trans ((bind_ok taken).trans (bind_ok (space_ok skipped)))

theorem comma_closed (rest : List Char) : comma (')' :: rest) = .ok (false, ')' :: rest) := by
  have before : space (')' :: rest) = .ok ((), ')' :: rest) := space_ok (skip_solid rfl (by decide) _)
  have not_taken : accept [','] (')' :: rest) = .ok (false, ')' :: rest) := rfl
  exact (bind_ok before).trans (bind_ok not_taken)

end Punctuation

inductive Gathers (member : σ → Reader σ) : List (List Char) → σ → σ → Prop where
  | done (s : σ) : Gathers member [] s s
  | next {text : List Char} {texts : List (List Char)} {s s' s'' : σ}
      (reads : Reads (member s) text s') (further : Gathers member texts s' s'') :
      Gathers member (text :: texts) s s''

def lines (depth : Nat) (texts : List (List Char)) : List Char :=
  texts.flatMap fun text => indent (depth + 1) ++ text ++ [',', '\n']

section Gathering

variable {member : σ → Reader σ} {texts : List (List Char)} {s s' : σ} {close : Char}

def fromFirst (depth : Nat) (close : Char) (rest : List Char) : List (List Char) → List Char
  | [] => close :: rest
  | text :: texts => text ++ ',' :: '\n' :: (lines depth texts ++ (indent depth ++ close :: rest))

theorem skip_lines (gathers : Gathers member texts s s') (solid : isSpace close = false)
    (slash : close ≠ '/') (depth : Nat) (rest : List Char) :
    skip .outside (lines depth texts ++ (indent depth ++ close :: rest))
      = .ok (fromFirst depth close rest texts) := by
  cases gathers with
  | done => exact (skip_indent depth _).trans (skip_solid solid slash rest)
  | next reads =>
    simp only [lines, List.flatMap_cons, List.append_assoc, skip_indent]
    exact (skip_opens (reads.opens.append _)).trans (by simp [fromFirst, lines])

/-- Members on lines of their own are gathered, each from the state that the one before it left. -/
theorem gather_lines (gathers : Gathers member texts s s') (solid : isSpace close = false)
    (closes : isOpener close = false) (slash : close ≠ '/') (depth : Nat) (cs rest : List Char)
    (same : skip .outside cs = .ok (fromFirst depth close rest texts)) :
    gather close member true s cs = .ok (s', close :: rest) := by
  -- The text that is left changes with every member: what a comma leaves has lost the layout in
  -- front of the next line, so only what both begin with after their layout is the same.
  induction gathers generalizing cs with
  | done s =>
    rw [gather, same]
    simp [fromFirst]
  | @next text texts s s' s'' reads further ih =>
    let after := lines depth texts ++ (indent depth ++ close :: rest)
    have here : skip .outside cs = .ok (text ++ ',' :: '\n' :: after) := same
    have left : skip .outside ('\n' :: after) = .ok (fromFirst depth close rest texts) :=
      (skip_space rfl _).trans (skip_lines further solid slash depth rest)
    have not_closed := (reads.opens.append (',' :: '\n' :: after)).head?_ne closes
    have shorter : (fromFirst depth close rest texts).length < cs.length := by
      have := length_skip left
      have := length_skip here
      simp only [List.length_append, List.length_cons] at *
      omega
    rw [gather, here]
    simp only [not_closed, Bool.not_true, Bool.false_eq_true, if_false,
      reads.back _ (Ends.comma _), comma_comma left, shorter, if_true]
    exact ih _ (skip_again left)

end Gathering

end VoxelGI.Document
