import MessageBus.Log.Layout
import MessageBus.Proofs.Text.Parts

namespace MessageBus

namespace Text

theorem toNat_of_isAlphanum {c : Char} (h : c.isAlphanum = true) :
    48 ≤ c.toNat ∧ c.toNat ≤ 57 ∨ 65 ≤ c.toNat ∧ c.toNat ≤ 90 ∨ 97 ≤ c.toNat ∧ c.toNat ≤ 122 := by
  simp only [Char.isAlphanum, Char.isAlpha, Char.isUpper, Char.isLower, Char.isDigit, ge_iff_le,
    UInt32.le_iff_toNat_le, Bool.or_eq_true, decide_eq_true_eq, Bool.and_eq_true] at h
  change (65 ≤ c.toNat ∧ c.toNat ≤ 90 ∨ 97 ≤ c.toNat ∧ c.toNat ≤ 122) ∨
    48 ≤ c.toNat ∧ c.toNat ≤ 57 at h
  omega

theorem isBlank_of_isAlphanum {c : Char} (h : c.isAlphanum = true) : isBlank c = false := by
  have bounds := toNat_of_isAlphanum h
  simp only [isBlank, Bool.or_eq_false_iff, Bool.and_eq_false_iff, decide_eq_false_iff_not,
    beq_eq_false_iff_ne]
  omega

theorem isAlphanumeric_of_isAlphanum {c : Char} (h : c.isAlphanum = true) :
    isAlphanumeric c = true := by
  have bounds := toNat_of_isAlphanum h
  rw [isAlphanumeric, if_pos (by omega), h]

theorem ne_of_isAlphanum {c mark : Char} (h : c.isAlphanum = true)
    (hm : mark.isAlphanum = false) : (c == mark) = false := by
  rw [beq_eq_false_iff_ne]
  rintro rfl
  simp [h] at hm

theorem dropWhile_isBlank {cs : List Char} (h : ∀ c ∈ cs, isBlank c = false) :
    cs.dropWhile isBlank = cs := by
  cases cs with
  | nil => rfl
  | cons c cs => rw [List.dropWhile_cons_of_neg (by simp [h c List.mem_cons_self])]

/-- Nothing is trimmed off a text without white space. -/
theorem trimChars_eq_self {cs : List Char} (h : ∀ c ∈ cs, isBlank c = false) :
    trimChars cs = cs := by
  have back : ∀ c ∈ cs.reverse, isBlank c = false := fun c hc => h c (List.mem_reverse.mp hc)
  rw [trimChars, dropWhile_isBlank h, dropWhile_isBlank back, List.reverse_reverse]

end Text

namespace Log

namespace Directive.Progress

/-- A word is read to its end. -/
theorem readChars_word {g : Progress} {start : Nat} (hg : g.stage = .word start) {cs : List Char}
    (h : ∀ c ∈ cs, c.isAlphanum = true) (pos : Nat) : g.readChars pos cs = g.takeWord start := by
  induction cs generalizing pos with
  | nil => rw [readChars, finish, hg]
  | cons c cs ih =>
    have word := h c List.mem_cons_self
    have on : g.readChar pos c = .ok g := by
      simp [readChar, hg, Text.ne_of_isAlphanum word]
    rw [readChars, on]
    exact ih (fun d hd => h d (List.mem_cons_of_mem _ hd)) _

/-- A word that is the whole text is taken when it ends. -/
theorem takeWord_whole (cs : List Char) : takeWord { stage := .word 0, uncut := cs } 0 =
    .ok { stage := .complete, uncut := cs
          directive := ({} : Directive).withWord (String.ofList cs) } := by
  cases cs <;> rfl

end Directive.Progress

namespace Directive

theorem withWord_level {s : String} {v : Verbosity} (filled : s ≠ "")
    (names : Verbosity.ofText? s = some v) :
    ({} : Directive).withWord s = { verbosity := v } := by
  simp [withWord, filled, names]

/-- A level alone is a directive for everything. -/
theorem parse_level {s : String} {v : Verbosity} (filled : s ≠ "")
    (word : ∀ c ∈ s.toList, c.isAlphanum = true) (names : Verbosity.ofText? s = some v) :
    parse s = .ok { verbosity := v } := by
  have clean : ∀ c ∈ s.toList, Text.isBlank c = false := fun c hc =>
    Text.isBlank_of_isAlphanum (word c hc)
  have read : Progress.readChars { uncut := s.toList } 0 s.toList =
      Progress.takeWord { stage := .word 0, uncut := s.toList } 0 := by
    cases hs : s.toList with
    | nil => exact absurd (String.toList_eq_nil_iff.mp hs) filled
    | cons c cs =>
      rw [hs] at word
      have letter := word c List.mem_cons_self
      have begun : Progress.readChar { uncut := c :: cs } 0 c =
          .ok { stage := .word 0, uncut := c :: cs } := by
        simp [Progress.readChar, Text.ne_of_isAlphanum letter,
          Text.isAlphanumeric_of_isAlphanum letter, Progress.next]
      rw [Progress.readChars, begun]
      exact Progress.readChars_word rfl (fun d hd => word d (List.mem_cons_of_mem _ hd)) _
  rw [parse, Text.trimChars_eq_self clean, read, Progress.takeWord_whole, String.ofList_toList,
    withWord_level filled names]
  rfl

end Directive

/-- Whether settings ask for a verbosity and nothing else. -/
structure Settings.IsPlain (s : Settings) (v : Verbosity) : Prop where
  alone : s.directives = []
  filled : s.level ≠ ""
  word : ∀ c ∈ s.level.toList, c.isAlphanum = true
  names : Verbosity.ofText? s.level = some v

namespace Settings

/-- The name of a level is plain. -/
theorem isPlain_lower {s : Settings} {l : Level} (level : s.level = l.lower)
    (alone : s.directives = []) : s.IsPlain (.upTo l) := by
  have filled : l.lower ≠ "" := by cases l <;> decide
  have word : ∀ c ∈ l.lower.toList, c.isAlphanum = true := by cases l <;> simp [Level.lower]
  have names : Verbosity.ofText? l.lower = some (.upTo l) := by cases l <;> decide +kernel
  exact ⟨alone, level ▸ filled, level ▸ word, level ▸ names⟩

theorem IsPlain.filter_eq {s : Settings} {v : Verbosity} (h : s.IsPlain v) :
    s.filter = .ok { rules := [{ target := none, fields := [], verbosity := v }] } := by
  have whole : Text.parts ',' s.level = [s.level] :=
    Text.parts_eq_self fun c hc => Text.ne_of_isAlphanum (h.word c hc) (by decide)
  have listed : Filter.parseList s.level = .ok [{ verbosity := v }] := by
    simp [Filter.parseList, whole, h.filled, Directive.parse_level h.filled h.word h.names]
  rw [filter, listed, h.alone]
  rfl

/-- A plain verbosity decides by the level of an event alone. -/
theorem IsPlain.allows_eq {s : Settings} {v : Verbosity} (h : s.IsPlain v) {k : Subscriber}
    (hk : s.subscriber = .ok k) (e : Event) : k.filter.allows e = v.allows e.level := by
  rw [subscriber, h.filter_eq] at hk
  cases hk
  rfl

end Settings

end Log

end MessageBus
