import DPUFabric.Library.Exceptions

/-!
# Readers and the languages they accept

A reader consumes the symbols ahead of it, and returns a value or throws.  It
accepts a language if it returns exactly when a word of the language is ahead,
whatever follows the word, and then consumes that word.  Where the value read
matters, `Parses` says which words stand for which value.

A sequence of readers accepts the product of their languages, so the language
of a record is written as it is read.
-/

namespace Grammar

open Exceptions

variable {ε β α δ : Type}

/-- The words of `codes value` are read as `value`, and nothing else is. -/
def Parses (read : EStateM ε (List β) α) (codes : α → Language β) : Prop :=
  ∀ ahead value rest,
    read ahead = .ok value rest ↔ ∃ code ∈ codes value, ahead = code ++ rest

/-- The words of the language are read, and nothing else is. -/
def Accepts (read : EStateM ε (List β) α) (language : Language β) : Prop :=
  ∀ ahead rest,
    (∃ value, read ahead = .ok value rest) ↔ ∃ code ∈ language, ahead = code ++ rest

/-! ## Single readers -/

section Rules

variable {read : EStateM ε (List β) α} {next : α → EStateM ε (List β) δ}
  {language language' : Language β}

theorem Accepts.congr (accepts : Accepts read language) (same : language = language') :
    Accepts read language' := by
  rwa [← same]

theorem Accepts.pure (value : α) : Accepts (pure value : EStateM ε (List β) α) 1 := by
  intro ahead rest
  constructor
  · rintro ⟨value, returned⟩
    cases returned
    exact ⟨[], Language.nil_mem_one, rfl⟩
  · rintro ⟨code, member, rfl⟩
    rw [(Language.mem_one code).mp member]
    exact ⟨value, rfl⟩

/-! ## Sequences -/

/-- One reader after another. -/
theorem Accepts.bind (first : Accepts read language)
    (second : ∀ value, Accepts (next value) language') :
    Accepts (read >>= next) (language * language') := by
  intro ahead rest
  constructor
  · rintro ⟨result, returned⟩
    obtain ⟨value, middle, begun, ended⟩ := bind_eq_ok_iff.mp returned
    obtain ⟨code, member, rfl⟩ := (first _ _).mp ⟨value, begun⟩
    obtain ⟨code', member', rfl⟩ := (second value _ _).mp ⟨result, ended⟩
    exact ⟨code ++ code', Language.append_mem_mul member member', (List.append_assoc ..).symm⟩
  · rintro ⟨whole, member, rfl⟩
    obtain ⟨code, here, code', there, rfl⟩ := Language.mem_mul.mp member
    rw [List.append_assoc]
    obtain ⟨value, begun⟩ := (first _ (code' ++ rest)).mpr ⟨code, here, rfl⟩
    obtain ⟨result, ended⟩ := (second value _ rest).mpr ⟨code', there, rfl⟩
    exact ⟨result, bind_eq_ok_iff.mpr ⟨value, _, begun, ended⟩⟩

/-- A last step that consumes nothing. -/
theorem Accepts.last {make : α → δ} (accepts : Accepts read language) :
    Accepts (read >>= fun value => Pure.pure (make value)) language :=
  (accepts.bind fun _ => .pure _).congr (mul_one language)

/-! ## Outcomes -/

/-- The reader returns if what is ahead begins with a word of the language. -/
theorem Accepts.returns_iff (accepts : Accepts read language) (ahead : List β) :
    (∃ value rest, read ahead = .ok value rest) ↔ ahead ∈ language * ⊤ := by
  rw [exists_comm, Language.mem_mul]
  constructor
  · rintro ⟨rest, returned⟩
    obtain ⟨code, member, rfl⟩ := (accepts _ _).mp returned
    exact ⟨code, member, rest, trivial, rfl⟩
  · rintro ⟨code, member, rest, -, rfl⟩
    exact ⟨rest, (accepts _ _).mpr ⟨code, member, rfl⟩⟩

end Rules

end Grammar
