import Mathlib.Data.List.Infix

/-!
# Looking for a delimiter symbol by symbol

A reader of a stream holds back the symbols which may be the begin of a
delimiter.  When the next symbol does not continue the delimiter, what was held
back goes out at once and the symbol is looked at afresh.  This finds every
occurrence when the first symbol of the delimiter does not come again in it:
what is held back can not end with the begin of another occurrence.
-/

namespace Chttp.Lib

variable {Symbol : Type*}

/-- A delimiter which begins with a symbol of its own. -/
structure Delimiter (Symbol : Type*) where
  first : Symbol
  rest : List Symbol
  once : first ∉ rest

namespace Delimiter

/-- All symbols of the delimiter. -/
def symbols (delimiter : Delimiter Symbol) : List Symbol :=
  delimiter.first :: delimiter.rest

theorem length_symbols_pos (delimiter : Delimiter Symbol) :
    0 < delimiter.symbols.length :=
  Nat.succ_pos _

variable [DecidableEq Symbol]

/-- Look at a symbol while nothing is held back. -/
def restart (delimiter : Delimiter Symbol) (symbol : Symbol) :
    List Symbol × Nat :=
  if symbol = delimiter.first then ([], 1) else ([symbol], 0)

/-- Look at a symbol while some symbols are held back: the symbols which go out,
and how many are held back now. -/
def step (delimiter : Delimiter Symbol) (held : Nat) (symbol : Symbol) :
    List Symbol × Nat :=
  if held = 0 then delimiter.restart symbol
  else if delimiter.symbols[held]? = some symbol then ([], held + 1)
  else
    (delimiter.symbols.take held ++ (delimiter.restart symbol).1,
      (delimiter.restart symbol).2)

/-- Read symbols until the delimiter is complete, or a part of it. -/
inductive Reads (delimiter : Delimiter Symbol) :
    Nat → List Symbol → List Symbol → Nat → Prop where
  | nil (held : Nat) : Reads delimiter held [] [] held
  | cons {held final : Nat} {symbol : Symbol} {symbols out : List Symbol}
      (open_ : held < delimiter.symbols.length)
      (reads : Reads delimiter (delimiter.step held symbol).2 symbols out
        final) :
      Reads delimiter held (symbol :: symbols)
      ((delimiter.step held symbol).1 ++ out) final

/-- Readings compose, and so does what they give out. -/
theorem Reads.append {delimiter : Delimiter Symbol} {held middle final : Nat}
    {symbols symbols' out out' : List Symbol}
    (before : delimiter.Reads held symbols out middle)
    (behind : delimiter.Reads middle symbols' out' final) :
    delimiter.Reads held (symbols ++ symbols') (out ++ out') final := by
  induction before with
  | nil => exact behind
  | cons open_ _ ih =>
    rw [List.cons_append, List.append_assoc]
    exact .cons open_ (ih behind)

section

variable (delimiter : Delimiter Symbol)

include delimiter

theorem restart_restores (symbol : Symbol) :
    (delimiter.restart symbol).1 ++
      delimiter.symbols.take (delimiter.restart symbol).2 = [symbol] := by
  unfold restart
  split_ifs with first
  · rw [first, symbols]
    rfl
  · rfl

theorem step_restores (held : Nat) (symbol : Symbol) :
    (delimiter.step held symbol).1 ++
      delimiter.symbols.take (delimiter.step held symbol).2 =
      delimiter.symbols.take held ++ [symbol] := by
  unfold step
  split_ifs with none next
  · rw [none, restart_restores]
    rfl
  · rw [List.take_add_one, next]
    rfl
  · rw [List.append_assoc, restart_restores]

theorem step_held_le {held : Nat} (open_ : held < delimiter.symbols.length)
    (symbol : Symbol) :
    (delimiter.step held symbol).2 ≤ delimiter.symbols.length := by
  have positive := delimiter.length_symbols_pos
  have restarted : (delimiter.restart symbol).2 ≤ delimiter.symbols.length := by
    unfold restart
    split_ifs
    · exact positive
    · exact Nat.zero_le _
  unfold step
  split_ifs
  · exact restarted
  · exact open_
  · exact restarted

theorem reads_of_clean {held : Nat} (open_ : held < delimiter.symbols.length)
    {symbols : List Symbol}
    (clean : ¬ delimiter.symbols <:+: delimiter.symbols.take held ++ symbols) :
    ∃ out final, delimiter.Reads held symbols out final ∧
      final < delimiter.symbols.length ∧
      out ++ delimiter.symbols.take final =
        delimiter.symbols.take held ++ symbols := by
  induction symbols generalizing held with
  | nil => exact ⟨[], held, .nil held, open_, by simp⟩
  | cons symbol symbols ih =>
    have restores := delimiter.step_restores held symbol
    have whole : delimiter.symbols.take held ++ symbol :: symbols =
        (delimiter.step held symbol).1 ++
          (delimiter.symbols.take (delimiter.step held symbol).2 ++
            symbols) := by
      rw [← List.append_assoc, restores, List.append_assoc,
        List.singleton_append]
    rw [whole] at clean ⊢
    have clean' : ¬ delimiter.symbols <:+:
        delimiter.symbols.take (delimiter.step held symbol).2 ++ symbols :=
      fun found =>
        clean (found.trans (List.suffix_append _ _).isInfix)
    have open' : (delimiter.step held symbol).2 <
        delimiter.symbols.length := by
      refine lt_of_le_of_ne (delimiter.step_held_le open_ symbol) ?_
      intro complete
      rw [complete, List.take_length] at clean'
      exact clean' (List.prefix_append _ _).isInfix
    obtain ⟨out, final, reads, below, same⟩ := ih open' clean'
    exact ⟨_, final, .cons open_ reads, below, by
      rw [List.append_assoc, same]⟩

theorem step_first (held : Nat) :
    delimiter.step held delimiter.first = (delimiter.symbols.take held, 1) := by
  have restarted : delimiter.restart delimiter.first = ([], 1) := if_pos rfl
  unfold step
  split_ifs with none next
  · rw [none, restarted]
    rfl
  · obtain ⟨before, rfl⟩ := Nat.exists_eq_succ_of_ne_zero none
    rw [symbols, List.getElem?_cons_succ] at next
    exact absurd (List.mem_of_getElem? next) delimiter.once
  · rw [restarted, List.append_nil]

theorem reads_rest {held : Nat} (positive : 0 < held)
    (open_ : held ≤ delimiter.symbols.length) :
    delimiter.Reads held (delimiter.symbols.drop held) []
      delimiter.symbols.length := by
  induction missing : delimiter.symbols.length - held generalizing held with
  | zero =>
    have complete : held = delimiter.symbols.length := by omega
    rw [complete, List.drop_length]
    exact .nil _
  | succ missing ih =>
    have below : held < delimiter.symbols.length := by omega
    rw [List.drop_eq_getElem_cons below]
    have stepped : delimiter.step held delimiter.symbols[held] =
        ([], held + 1) := by
      rw [step, if_neg positive.ne', if_pos (List.getElem?_eq_getElem below)]
    have reads := @Reads.cons _ _ delimiter held delimiter.symbols.length
      delimiter.symbols[held] (delimiter.symbols.drop (held + 1)) [] below
    rw [stepped] at reads
    exact reads (ih (Nat.succ_pos held) below (by omega))

/-- A text without the delimiter in it is read back exactly in front of the
delimiter. -/
theorem reads_text {text : List Symbol}
    (clean : ¬ delimiter.symbols <:+: text) :
    delimiter.Reads 0 (text ++ delimiter.symbols) text
      delimiter.symbols.length := by
  obtain ⟨out, held, reads, below, same⟩ :=
    @reads_of_clean _ _ delimiter 0 delimiter.length_symbols_pos text clean
  have first := @Reads.cons _ _ delimiter held delimiter.symbols.length
    delimiter.first (delimiter.symbols.drop 1) [] below
  rw [delimiter.step_first, List.append_nil] at first
  have behind := reads.append
    (first (delimiter.reads_rest Nat.one_pos delimiter.length_symbols_pos))
  rw [same] at behind
  exact behind

end

end Delimiter

end Chttp.Lib
