import Mathlib.Data.List.Basic
import SearchStore.Proofs.Bulk.Parsed

/-!
The lines of a body and what reading makes of them one after the other. Two bodies joined by a line break
have the lines of the one and then those of the other, numbered on; a fault is told by the number of its
line, so the same lines further down are refused with higher numbers.
-/

set_option autoImplicit false

namespace SearchStore

def Malformed.line? : Malformed → Option Nat
  | .bulkAction n => some n
  | .bulkSource n => some n
  | .bulkNoSource _ n => some n
  | _ => none

def Malformed.lowered (k : Nat) : Malformed → Malformed
  | .bulkAction n => .bulkAction (n + k)
  | .bulkSource n => .bulkSource (n + k)
  | .bulkNoSource kind n => .bulkNoSource kind (n + k)
  | cause => cause

namespace Failure

def line? : Failure → Option Nat
  | .malformedInput cause => cause.line?
  | _ => none

def lowered (k : Nat) : Failure → Failure
  | .malformedInput cause => .malformedInput (cause.lowered k)
  | e => e

theorem lowered_unnumbered {e : Failure} (unnumbered : e.line? = none) (k : Nat) : e.lowered k = e := by
  cases e with
  | malformedInput cause =>
      cases cause with
      | bulkAction | bulkSource | bulkNoSource => cases unnumbered
      | _ => rfl
  | _ => rfl

end Failure

section

variable {α β : Type} {first : Except Failure α} {rest : α → Except Failure β}

def Unnumbered (result : Except Failure α) : Prop := ∀ e, result = .error e → e.line? = none

theorem unnumbered_ok (a : α) : Unnumbered (.ok a : Except Failure α) := by
  intro e failed
  cases failed

theorem unnumbered_error {e : Failure} (unnumbered : e.line? = none) : Unnumbered (.error e : Except Failure α) := by
  intro e failed
  cases failed
  exact unnumbered

theorem unnumbered_bind (left : Unnumbered first) (right : ∀ a, Unnumbered (rest a)) : Unnumbered (first >>= rest) := by
  cases first with
  | ok a => exact right a
  | error e =>
      intro _ failed
      cases failed
      exact left e rfl

theorem check_name_unnumbered (noun name : String) : Unnumbered (checkName noun name) := by
  rw [checkName]
  split
  · exact unnumbered_error rfl
  · split
    · exact unnumbered_ok _
    · exact unnumbered_error rfl

theorem check_id_unnumbered (id : String) : Unnumbered (checkId id) := by
  rw [checkId]
  split
  · exact unnumbered_ok _
  · exact unnumbered_error rfl

theorem of_names_unnumbered (index type : String) : Unnumbered (Relation.ofNames index type) := by
  refine unnumbered_bind (unnumbered_bind (check_name_unnumbered "index" index) fun _ => ?_) fun _ => ?_
  · split
    · exact unnumbered_error rfl
    · exact unnumbered_ok _
  · refine unnumbered_bind (check_name_unnumbered "type" type) fun _ => ?_
    dsimp only
    split
    · exact unnumbered_ok _
    · exact unnumbered_error rfl

end

namespace Bulk

def joined (ls : List (List Char)) : List Char := ['\n'].intercalate ls

def bodyOf (ls : List (List Char)) : String := String.ofList (joined ls)

variable {s line : List Char} {ls : List (List Char)}

theorem split_filled (s : List Char) : splitLines s ≠ [] := by
  cases s with
  | nil => exact List.cons_ne_nil _ _
  | cons c rest =>
      rw [splitLines]
      split
      · exact List.cons_ne_nil _ _
      · split <;> exact List.cons_ne_nil _ _

theorem split_plain (plain : '\n' ∉ line) : splitLines line = [line] := by
  induction line with
  | nil => rfl
  | cons c rest ih =>
      obtain ⟨other, later⟩ := not_or.mp fun member => plain (List.mem_cons.mpr member)
      rw [splitLines, if_neg (Ne.symm other), ih later]

theorem split_append (s t : List Char) : splitLines (s ++ '\n' :: t) = splitLines s ++ splitLines t := by
  induction s with
  | nil => rfl
  | cons c rest ih =>
      rw [List.cons_append, splitLines, splitLines, ih]
      by_cases ends : c = '\n'
      · rw [if_pos ends, if_pos ends]
        rfl
      · rw [if_neg ends, if_neg ends]
        cases split : splitLines rest with
        | nil => exact absurd split (split_filled rest)
        | cons first later => rfl

theorem split_lines_plain (s : List Char) : ∀ line ∈ splitLines s, '\n' ∉ line := by
  induction s with
  | nil => simp [splitLines]
  | cons c rest ih =>
      rw [splitLines]
      split
      · simpa using ih
      · rename_i other
        cases split : splitLines rest with
        | nil => exact absurd split (split_filled rest)
        | cons first later =>
            rw [split] at ih
            obtain ⟨here, below⟩ := List.forall_mem_cons.mp ih
            refine List.forall_mem_cons.mpr ⟨?_, below⟩
            simpa [here] using Ne.symm other

theorem split_joined (plain : ∀ line ∈ ls, '\n' ∉ line) (filled : ls ≠ []) : splitLines (joined ls) = ls := by
  induction ls with
  | nil => exact absurd rfl filled
  | cons line rest ih =>
      obtain ⟨here, below⟩ := List.forall_mem_cons.mp plain
      cases rest with
      | nil => simpa [joined] using split_plain here
      | cons next later =>
          have parts : joined (line :: next :: later) = line ++ '\n' :: joined (next :: later) := by
            simp [joined, List.intercalate_cons_cons]
          rw [parts, split_append, split_plain here, ih below (List.cons_ne_nil _ _)]
          rfl

def lineCount (body : String) : Nat := (splitLines body.toList).length

def lowerLine (k : Nat) (l : Nat × List Char) : Nat × List Char := (l.1 + k, l.2)

theorem numbered_append (n : Nat) (first second : List (List Char)) :
    numberedFrom n (first ++ second) = numberedFrom n first ++ numberedFrom (n + first.length) second := by
  induction first generalizing n with
  | nil => rfl
  | cons line rest ih =>
      rw [List.cons_append, numberedFrom, numberedFrom, ih, List.length_cons, Nat.add_right_comm, Nat.add_assoc]
      split <;> rfl

theorem numbered_lowered (n k : Nat) (ls : List (List Char)) :
    numberedFrom (n + k) ls = (numberedFrom n ls).map (lowerLine k) := by
  induction ls generalizing n with
  | nil => rfl
  | cons line rest ih =>
      rw [numberedFrom, numberedFrom, Nat.add_right_comm, ih]
      split <;> rfl

theorem numbered_joined (plain : ∀ line ∈ ls, '\n' ∉ line) : lines (bodyOf ls) = numberedFrom 1 ls := by
  rw [lines, bodyOf, String.toList_ofList]
  by_cases filled : ls = []
  · subst filled
    rfl
  · rw [split_joined plain filled]

theorem lines_append (a b : String) : lines (a ++ "\n" ++ b) = lines a ++ (lines b).map (lowerLine (lineCount a)) := by
  have text : (a ++ "\n" ++ b).toList = a.toList ++ '\n' :: b.toList := by
    simp [String.toList_append]
  rw [lines, lines, lines, text, split_append, numbered_append, lineCount, numbered_lowered]

theorem numbered_split {m n : Nat} {before after : List (Nat × List Char)}
    (numbered : numberedFrom m ls = before ++ (n, line) :: after) : ∃ above own below,
    ls = above ++ own :: below ∧ n = m + above.length ∧ Text.trim own = line ∧ line ≠ [] ∧
      numberedFrom m above = before ∧ numberedFrom m (above ++ [own]) = before ++ [(n, line)] := by
  induction ls generalizing m before with
  | nil => simp [numberedFrom] at numbered
  | cons own rest ih =>
      rw [numberedFrom] at numbered
      by_cases blank : (Text.trim own).isEmpty = true
      · rw [if_pos blank] at numbered
        obtain ⟨above, found, below, rfl, rfl, trimmed, filled, upper, upTo⟩ := ih numbered
        refine ⟨own :: above, found, below, rfl, ?_, trimmed, filled, ?_, ?_⟩
        · rw [List.length_cons]
          omega
        · simpa [numberedFrom, blank] using upper
        · simpa [numberedFrom, blank] using upTo
      · rw [if_neg blank] at numbered
        cases before with
        | nil =>
            obtain ⟨⟨rfl, rfl⟩, rfl⟩ : (m = n ∧ Text.trim own = line) ∧ numberedFrom (m + 1) rest = after := by
              simpa using numbered
            refine ⟨[], own, rest, rfl, rfl, rfl, ?_, rfl, ?_⟩
            · simpa using blank
            · simp [numberedFrom, blank]
        | cons first before =>
            obtain ⟨rfl, later⟩ := List.cons.inj numbered
            obtain ⟨above, found, below, rfl, rfl, trimmed, filled, upper, upTo⟩ := ih later
            refine ⟨own :: above, found, below, rfl, ?_, trimmed, filled, ?_, ?_⟩
            · rw [List.length_cons]
              omega
            · simpa [numberedFrom, blank] using upper
            · simpa [numberedFrom, blank] using upTo

variable {index type : Option String} {n k : Nat} {source : List Char} {rest : List (Nat × List Char)} {a : Bulk.Action}
  {e : Failure}

theorem actions_refused (refused : action index type n line = .error e) :
    actions index type ((n, line) :: rest) = .error e := by
  rw [actions, refused]
  rfl

theorem actions_bare (read : action index type n line = .ok a) (bare : a.kind.takesPayload = false) :
    actions index type ((n, line) :: rest) = (actions index type rest).map (a :: ·) := by
  rw [actions, read]
  simp only [bind, Except.bind, bare, Bool.false_eq_true, ↓reduceIte]
  cases actions index type rest <;> rfl

theorem actions_waiting (read : action index type n line = .ok a) (takes : a.kind.takesPayload = true) :
    actions index type [(n, line)] = .error (.malformedInput (.bulkNoSource a.kind n)) := by
  rw [actions, read]
  simp only [bind, Except.bind, takes, ↓reduceIte]
  rfl

theorem actions_filled (read : action index type n line = .ok a) (takes : a.kind.takesPayload = true) :
    actions index type ((n, line) :: (k, source) :: rest) =
      (payload k source).bind fun v => (actions index type rest).map ({ a with source := some v } :: ·) := by
  rw [actions, read]
  simp only [bind, Except.bind, takes, ↓reduceIte]
  cases payload k source with
  | error e => rfl
  | ok v => cases actions index type rest <;> rfl

-- What the lines of a body can be: none, one that is refused, an action that is all, an action that waits
-- for its payload in vain, or an action and the line it takes.
theorem lines_induction (index type : Option String) {motive : List (Nat × List Char) → Prop} (nothing : motive [])
    (refused : ∀ n line rest e, action index type n line = .error e → motive ((n, line) :: rest))
    (bare : ∀ n line rest a, action index type n line = .ok a → a.kind.takesPayload = false → motive rest →
      motive ((n, line) :: rest))
    (waiting : ∀ n line a, action index type n line = .ok a → a.kind.takesPayload = true → motive [(n, line)])
    (filled : ∀ n line k source rest a, action index type n line = .ok a → a.kind.takesPayload = true →
      motive rest → motive ((n, line) :: (k, source) :: rest)) : ∀ ls, motive ls
  | [] => nothing
  | [(n, line)] => by
      cases read : action index type n line with
      | error e => exact refused n line [] e read
      | ok a =>
          cases takes : a.kind.takesPayload with
          | false => exact bare n line [] a read takes nothing
          | true => exact waiting n line a read takes
  | (n, line) :: (k, source) :: rest => by
      cases read : action index type n line with
      | error e => exact refused n line ((k, source) :: rest) e read
      | ok a =>
          cases takes : a.kind.takesPayload with
          | false =>
              exact bare n line ((k, source) :: rest) a read takes
                (lines_induction index type nothing refused bare waiting filled ((k, source) :: rest))
          | true =>
              exact filled n line k source rest a read takes
                (lines_induction index type nothing refused bare waiting filled rest)

theorem action_lowered (index type : Option String) (n k : Nat) (line : List Char) :
    action index type (n + k) line = (action index type n line).mapError (·.lowered k) := by
  rw [action, action]
  split
  · rfl
  · split
    · rfl
    · split
      · rfl
      · dsimp only
        split
        · rfl
        · cases named : Relation.ofNames _ _ with
          | error e =>
              have kept := Failure.lowered_unnumbered (of_names_unnumbered _ _ e named) k
              exact congrArg Except.error kept.symm
          | ok r =>
              simp only [bind, Except.bind]
              split
              · rename_i id _
                cases checked : checkId id with
                | error e =>
                    have kept := Failure.lowered_unnumbered (check_id_unnumbered id e checked) k
                    exact congrArg Except.error kept.symm
                | ok => rfl
              · rfl

theorem payload_lowered (n k : Nat) (source : List Char) :
    payload (n + k) source = (payload n source).mapError (·.lowered k) := by
  rw [payload, payload]
  split <;> rfl

theorem action_numbered (refused : action index type n line = .error e) :
    e = .malformedInput (.bulkAction n) ∨ e.line? = none := by
  rw [action] at refused
  split at refused
  · cases refused
    exact Or.inl rfl
  · right
    split at refused
    · cases refused
      rfl
    · split at refused
      · cases refused
        rfl
      · dsimp only at refused
        split at refused
        · cases refused
          rfl
        · refine unnumbered_bind (of_names_unnumbered _ _) (fun _ => ?_) e refused
          split
          · exact unnumbered_bind (check_id_unnumbered _) fun _ => unnumbered_ok _
          · exact unnumbered_ok _

theorem actions_lowered (index type : Option String) (k : Nat) (ls : List (Nat × List Char)) :
    actions index type (ls.map (lowerLine k)) = (actions index type ls).mapError (·.lowered k) := by
  induction ls using lines_induction index type with
  | nothing => rfl
  | refused n line rest e refused =>
      have below := action_lowered index type n k line
      rw [refused] at below
      rw [actions_refused refused, List.map_cons, lowerLine, actions_refused below]
      rfl
  | bare n line rest a read bare ih =>
      have below := action_lowered index type n k line
      rw [read] at below
      rw [actions_bare read bare, List.map_cons, lowerLine, actions_bare below bare, ih]
      cases actions index type rest <;> rfl
  | waiting n line a read takes =>
      have below := action_lowered index type n k line
      rw [read] at below
      rw [actions_waiting read takes, List.map_singleton, lowerLine, actions_waiting below takes]
      rfl
  | filled n line m source rest a read takes ih =>
      have below := action_lowered index type n k line
      rw [read] at below
      rw [actions_filled read takes, List.map_cons, List.map_cons, lowerLine, lowerLine, actions_filled below takes,
        payload_lowered, ih]
      cases payload m source with
      | error e => rfl
      | ok v => cases actions index type rest <;> rfl

end Bulk

end SearchStore
