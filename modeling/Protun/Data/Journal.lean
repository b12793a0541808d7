import Mathlib.Data.Set.Basic

/-!
# Journals of what is to be undone

A journal is a list of entries, each naming at most one resource. It serves to undo, later, what
was done: everything that is *owed* must be named, and only what is *known* to be one's own may be.

* `Covers`: every owed resource has an entry, and every entry names a known resource.
* `Covers.push`: an entry for a resource that becomes owed. `Covers.shrink`: entries may go that
  name nothing owed.
-/

namespace Protun.Journal

variable {ε ρ : Type}

/-- The entries name all that is owed and only what is known. -/
structure Covers (names : ε → ρ → Prop) (owed known : Set ρ) (entries : List ε) : Prop where
  complete : ∀ r ∈ owed, ∃ e ∈ entries, names e r
  sound : ∀ e ∈ entries, ∀ r, names e r → r ∈ known

namespace Covers

variable {names : ε → ρ → Prop} {owed owed' known known' : Set ρ} {entries entries' : List ε}

/-- Less is owed, more is known. -/
theorem mono (h : Covers names owed known entries) (howed : owed' ⊆ owed)
    (hknown : known ⊆ known') : Covers names owed' known' entries where
  complete r hr := h.complete r (howed hr)
  sound e he r hr := hknown (h.sound e he r hr)

/-- Something more is owed, and an entry is made for it. -/
theorem push {e : ε} {r : ρ} (h : Covers names owed known entries) (hr : names e r)
    (honly : ∀ r', names e r' → r' = r) (hknown : r ∈ known) :
    Covers names (insert r owed) known (entries ++ [e]) where
  complete r' hr' := by
    rcases hr' with rfl | hr'
    · exact ⟨e, by simp, hr⟩
    · obtain ⟨e', he', hn⟩ := h.complete r' hr'
      exact ⟨e', by simp [he'], hn⟩
  sound e' he' r' hn := by
    rcases List.mem_append.mp he' with he' | he'
    · exact h.sound e' he' r' hn
    · obtain rfl := List.mem_singleton.mp he'
      exact honly r' hn ▸ hknown

/-- Entries that name nothing owed may go. -/
theorem shrink (h : Covers names owed known entries) (hsub : ∀ e ∈ entries', e ∈ entries)
    (hkeep : ∀ e ∈ entries, e ∉ entries' → ∀ r ∈ owed, ¬ names e r) :
    Covers names owed known entries' where
  complete r hr := by
    obtain ⟨e, he, hn⟩ := h.complete r hr
    by_cases hmem : e ∈ entries'
    · exact ⟨e, hmem, hn⟩
    · exact absurd hn (hkeep e he hmem r hr)
  sound e he := h.sound e (hsub e he)

end Covers

end Protun.Journal
