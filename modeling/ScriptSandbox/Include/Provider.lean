import ScriptSandbox.HostError

/-!
# Providers of fragments

A provider recognises part of a reference, its token, and produces the fragment of a token. Hosts
write their own providers, so both operations may use and change a state of the host's.
-/

namespace ScriptSandbox.Include

/-- A source of fragments. -/
structure Provider (σ : Type) where
  /-- The part of a reference that this provider recognises. -/
  find : String → StateM σ (Option String)
  /-- The fragment of a token that `find` gave. -/
  fetch : String → StateM σ (Except HostError (List Char))

namespace Provider

variable {σ : Type}

/-- The provider whose answers depend on nothing but the question. -/
def ofFunctions (find : String → Option String)
    (fetch : String → Except HostError (List Char)) : Provider σ where
  find reference := pure (find reference)
  fetch token := pure (fetch token)

end Provider

/-- A provider that matched a reference. -/
structure Match (σ : Type) where
  /-- The position of the provider in the list. -/
  index : Nat
  /-- The provider itself. -/
  provider : Provider σ
  /-- The token it recognised. -/
  token : String

/-- The first of the providers, counted from `index` on, that recognises part of a reference. -/
def firstMatch {σ : Type} (index : Nat) (reference : String) :
    List (Provider σ) → StateM σ (Option (Match σ))
  | [] => pure none
  | provider :: rest => do
    match ← provider.find reference with
    | some token => pure (some ⟨index, provider, token⟩)
    | none => firstMatch (index + 1) reference rest

section

variable {σ : Type} {index : Nat} {reference : String} {provider : Provider σ}
  {rest : List (Provider σ)} {host host' : σ}

theorem firstMatch_cons_of_none (hfind : provider.find reference host = (none, host')) :
    firstMatch index reference (provider :: rest) host =
      firstMatch (index + 1) reference rest host' := by
  simp only [firstMatch, bind, StateT.bind, hfind]

theorem firstMatch_cons_of_some {token : String}
    (hfind : provider.find reference host = (some token, host')) :
    firstMatch index reference (provider :: rest) host =
      (some ⟨index, provider, token⟩, host') := by
  simp only [firstMatch, bind, StateT.bind, hfind]
  rfl

end

end ScriptSandbox.Include
