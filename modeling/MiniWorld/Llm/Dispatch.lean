import MiniWorld.Run.Invariant
import Mathlib.Data.List.Infix
import Mathlib.Data.List.Lemmas
import Mathlib.Data.List.Nodup
import Mathlib.Data.List.TakeWhile
import Mathlib.Logic.Function.Basic
/-! # The provider chain (`internal/llm/providers.go`)

The LLM client runs an ordered chain of providers.  `resolveProviders` builds the chain
from the configured order, skipping a name it has already seen, so the names in the chain
are distinct (`resolveProviders_nodup`), which the model's `Client` keeps as a field.
`dispatch` tries the providers that are not in their cooldown, or all of them when every
one is cooling down, in chain order until one succeeds; a usage-cap error arms the
provider's 30-minute cooldown.

The HTTP calls are not modelled: an assignment `call` gives the outcome of calling each
provider, its output or its error text, and the model records which providers were called.
The cooldown map is read and written at one clock value `now`, in nanoseconds.  Where
`resolveProviders` trims and lowercases a name and reads the catalog and the environment,
the model takes the normalisation and what is resolved for a name as parameters, and where
`isCapError` lowers an error's text, the rune map `unicode.ToLower`.

One dispatch calls the candidates in order up to the first success, no further and none
twice, returns the outcome of the last call, and arms the cooldown of exactly the called
providers that failed with a cap error (`dispatch_advances_only_as_needed`).
-/

namespace MiniWorld.Llm

open MiniWorld.Run (foldl_invariant)

inductive ProviderKind
  | anthropic
  | openAI
  deriving DecidableEq, Repr

/-- `provider`, one resolved entry of the chain. -/
structure Provider where
  name : String
  kind : ProviderKind
  baseURL : String
  apiKey : String
  model : String
  deriving DecidableEq, Repr

/-- What `resolveProviders` reads for a provider from the catalog and the environment. -/
structure ProviderSettings where
  kind : ProviderKind
  baseURL : String
  apiKey : String
  model : String
  deriving DecidableEq, Repr

/-! ## Building the chain -/

/-- One name of the loop of `resolveProviders`, on the chain so far and the names seen: the
name is normalised (`strings.ToLower` of `strings.TrimSpace`); an empty or already seen name
is skipped; otherwise it is marked seen and, if `resolve` finds its settings, appended. -/
def resolveStep (normalize : String → String) (resolve : String → Option ProviderSettings)
    (acc : List Provider × List String) (name : String) : List Provider × List String :=
  let name := normalize name
  if name = "" ∨ name ∈ acc.2 then acc
  else
    match resolve name with
    | none => (acc.1, acc.2 ++ [name])
    | some s => (acc.1 ++ [⟨name, s.kind, s.baseURL, s.apiKey, s.model⟩], acc.2 ++ [name])

/-- `resolveProviders`, from the configured order of names. -/
def resolveProviders (normalize : String → String) (resolve : String → Option ProviderSettings)
    (order : List String) : List Provider :=
  (order.foldl (resolveStep normalize resolve) ([], [])).1

/-- The chain built so far has distinct names, all of them seen. -/
def ChainSeen (acc : List Provider × List String) : Prop :=
  (acc.1.map Provider.name).Nodup ∧ ∀ p ∈ acc.1, p.name ∈ acc.2

theorem resolveStep_seen (normalize : String → String)
    (resolve : String → Option ProviderSettings) (acc : List Provider × List String)
    (name : String) (held : ChainSeen acc) :
    ChainSeen (resolveStep normalize resolve acc name) := by
  obtain ⟨distinct, seen⟩ := held
  unfold resolveStep
  dsimp only
  split_ifs with skipped
  · exact ⟨distinct, seen⟩
  · have fresh : normalize name ∉ acc.1.map Provider.name := by
      intro listed
      obtain ⟨p, member, named⟩ := List.mem_map.mp listed
      exact skipped (.inr (named ▸ seen p member))
    split
    · exact ⟨distinct, fun p member => List.mem_append_left _ (seen p member)⟩
    · refine ⟨?_, ?_⟩
      · have apart : ∀ a ∈ acc.1, ¬ a.name = normalize name := fun a member named =>
          fresh (List.mem_map.mpr ⟨a, member, named⟩)
        simpa [List.nodup_append] using And.intro distinct apart
      · intro p member
        rcases List.mem_append.mp member with old | new
        · exact List.mem_append_left _ (seen p old)
        · simp only [List.mem_singleton] at new
          simp [new]

theorem resolveProviders_nodup (normalize : String → String)
    (resolve : String → Option ProviderSettings) (order : List String) :
    ((resolveProviders normalize resolve order).map Provider.name).Nodup :=
  (foldl_invariant ChainSeen (resolveStep normalize resolve) order ([], [])
    (fun name _ acc held => resolveStep_seen normalize resolve acc name held)
    ⟨List.nodup_nil, by simp⟩).1

/-! ## The client and its cooldowns -/

/-- `Client`, with the chain and the cooldown map (provider name to skip-until instant).  The
names of the chain are distinct, as `resolveProviders` builds it. -/
structure Client where
  providers : List Provider
  distinct : (providers.map Provider.name).Nodup
  cooldowns : String → Option ℤ := fun _ => none

/-- `NewClient`: no client without providers. -/
def newClient (normalize : String → String) (resolve : String → Option ProviderSettings)
    (order : List String) : Option Client :=
  if resolveProviders normalize resolve order = [] then none
  else some ⟨resolveProviders normalize resolve order,
    resolveProviders_nodup normalize resolve order, fun _ => none⟩

/-- `providerCooldown`, 30 minutes in nanoseconds. -/
def providerCooldown : ℤ := 30 * 60 * 1000000000

/-- `inCooldown`: the name has a skip-until instant still ahead of `now`. -/
def Client.inCooldown (c : Client) (now : ℤ) (name : String) : Bool :=
  match c.cooldowns name with
  | some skipUntil => now < skipUntil
  | none => false

def Client.setCooldown (c : Client) (now : ℤ) (name : String) : Client :=
  { c with cooldowns := Function.update c.cooldowns name (some (now + providerCooldown)) }

/-- `strings.Contains(strings.ToLower(text), substr)`.  `strings.ToLower` maps every rune by
`unicode.ToLower`, whose case tables the model takes as the parameter `toLower`: it is not
`Char.toLower`, which lowers ASCII only, where Go also lowers `İ` to `i`. -/
def containsLowered (toLower : Char → Char) (text : String) (substr : String) : Bool :=
  decide (substr.toList <:+: text.toList.map toLower)

/-- `isCapError`, on the error's text. -/
def isCapError (toLower : Char → Char) (err : String) : Bool :=
  containsLowered toLower err "specified api usage" || containsLowered toLower err "usage limit" ||
    containsLowered toLower err "credit balance" || containsLowered toLower err "quota" ||
    containsLowered toLower err "insufficient balance"

/-! ## Dispatch -/

/-- What a dispatch leaves: its return value, the client with its cooldowns, and the providers
it called, in order. -/
structure Dispatched where
  result : Except String String
  client : Client
  called : List Provider

/-- The candidates of a dispatch: the providers not in cooldown, or all of them when every one
is cooling down. -/
def Client.candidates (c : Client) (now : ℤ) : List Provider :=
  let candidates := c.providers.filter fun p => !c.inCooldown now p.name
  if candidates.length = 0 then c.providers else candidates

/-- The loop of `dispatch` over the candidates: call each; return the first output; after an
error remember it and arm the cooldown on a cap error; after the last, return the last error. -/
def Client.tryCandidates (toLower : Char → Char) (now : ℤ) (call : Provider → Except String String) :
    List Provider → Option String → Client → Dispatched
  | [], lastErr, c =>
    ⟨match lastErr with
      | some err => .error err
      | none => .ok "", c, []⟩
  | p :: rest, _, c =>
    match call p with
    | .ok out => ⟨.ok out, c, [p]⟩
    | .error err =>
      let c := if isCapError toLower err then c.setCooldown now p.name else c
      let later := Client.tryCandidates toLower now call rest (some err) c
      { later with called := p :: later.called }

def Client.dispatch (c : Client) (toLower : Char → Char) (now : ℤ)
    (call : Provider → Except String String) : Dispatched :=
  if c.providers.length = 0 then ⟨.error "no LLM providers configured", c, []⟩
  else Client.tryCandidates toLower now call (c.candidates now) none c

/-- The called provider failed with a cap error. -/
def capFailed (toLower : Char → Char) (call : Provider → Except String String) (p : Provider) : Bool :=
  match call p with
  | .error err => isCapError toLower err
  | .ok _ => false

/-! ## What one dispatch does -/

theorem candidates_sublist (c : Client) (now : ℤ) : (c.candidates now).Sublist c.providers := by
  unfold Client.candidates
  dsimp only
  split_ifs
  · exact List.Sublist.refl _
  · exact List.filter_sublist

theorem mem_candidates (c : Client) (now : ℤ) (p : Provider) :
    p ∈ c.candidates now ↔ p ∈ c.providers ∧
      (c.inCooldown now p.name = false ∨ ∀ q ∈ c.providers, c.inCooldown now q.name = true) := by
  unfold Client.candidates
  dsimp only
  split_ifs with allCooling
  · have cooling := List.filter_eq_nil_iff.mp (List.length_eq_zero_iff.mp allCooling)
    simp only [Bool.not_eq_true', Bool.not_eq_false] at cooling
    exact ⟨fun member => ⟨member, .inr cooling⟩, fun ⟨member, _⟩ => member⟩
  · rw [List.mem_filter]
    constructor
    · rintro ⟨member, free⟩
      exact ⟨member, .inl (by simpa using free)⟩
    · rintro ⟨member, free | cooling⟩
      · exact ⟨member, by simp [free]⟩
      · -- not every provider is cooling, so the filter is not empty
        exfalso
        apply allCooling
        rw [List.length_eq_zero_iff, List.filter_eq_nil_iff]
        intro q listed
        simp [cooling q listed]

/-- The calls of the loop: the candidates up to and including the first that succeeds. -/
theorem tryCandidates_called (toLower : Char → Char) (now : ℤ) (call : Provider → Except String String) :
    ∀ (candidates : List Provider) (lastErr : Option String) (c : Client),
      (Client.tryCandidates toLower now call candidates lastErr c).called =
        candidates.takeWhile (fun p => !(call p).isOk) ++
          (candidates.dropWhile (fun p => !(call p).isOk)).take 1
  | [], _, _ => rfl
  | p :: rest, _, c => by
    unfold Client.tryCandidates
    cases outcome : call p with
    | ok out => simp [outcome, Except.isOk, Except.toBool]
    | error err =>
      dsimp only
      rw [tryCandidates_called toLower now call rest]
      simp [outcome, Except.isOk, Except.toBool]

/-- The loop returns the outcome of its last call, or the remembered error if it calls
nothing. -/
theorem tryCandidates_result (toLower : Char → Char) (now : ℤ) (call : Provider → Except String String) :
    ∀ (candidates : List Provider) (lastErr : Option String) (c : Client),
      (Client.tryCandidates toLower now call candidates lastErr c).result =
        match (Client.tryCandidates toLower now call candidates lastErr c).called.getLast? with
        | some last => call last
        | none => match lastErr with
          | some err => .error err
          | none => .ok ""
  | [], _, _ => rfl
  | p :: rest, _, c => by
    unfold Client.tryCandidates
    cases outcome : call p with
    | ok out => simp [outcome]
    | error err =>
      dsimp only
      rw [tryCandidates_result toLower now call rest]
      cases called : (Client.tryCandidates toLower now call rest (some err)
          (if isCapError toLower err then c.setCooldown now p.name else c)).called with
      | nil => simp [outcome]
      | cons q later => simp only [List.getLast?_cons, Option.getD_some]

/-- The loop arms the cooldown of exactly the called providers that failed with a cap error. -/
theorem tryCandidates_cooldowns (toLower : Char → Char) (now : ℤ) (call : Provider → Except String String) :
    ∀ (candidates : List Provider) (lastErr : Option String) (c : Client) (name : String),
      (Client.tryCandidates toLower now call candidates lastErr c).client.cooldowns name =
        if ∃ p ∈ (Client.tryCandidates toLower now call candidates lastErr c).called,
            p.name = name ∧ capFailed toLower call p = true then
          some (now + providerCooldown)
        else c.cooldowns name
  | [], _, _, _ => by simp [Client.tryCandidates]
  | p :: rest, _, c, name => by
    unfold Client.tryCandidates
    cases outcome : call p with
    | ok out => simp [outcome, capFailed]
    | error err =>
      dsimp only
      rw [tryCandidates_cooldowns toLower now call rest]
      by_cases later : ∃ q ∈ (Client.tryCandidates toLower now call rest (some err)
          (if isCapError toLower err then c.setCooldown now p.name else c)).called,
          q.name = name ∧ capFailed toLower call q = true
      · have widened : ∃ q ∈ p :: (Client.tryCandidates toLower now call rest (some err)
            (if isCapError toLower err then c.setCooldown now p.name else c)).called,
            q.name = name ∧ capFailed toLower call q = true := by
          obtain ⟨q, member, named⟩ := later
          exact ⟨q, List.mem_cons_of_mem p member, named⟩
        rw [if_pos later, if_pos widened]
      · rw [if_neg later]
        -- only the head can have armed this name
        by_cases armed : p.name = name ∧ capFailed toLower call p = true
        · have widened : ∃ q ∈ p :: (Client.tryCandidates toLower now call rest (some err)
              (if isCapError toLower err then c.setCooldown now p.name else c)).called,
              q.name = name ∧ capFailed toLower call q = true := ⟨p, List.mem_cons_self, armed⟩
          obtain ⟨named, capped⟩ := armed
          simp only [capFailed, outcome] at capped
          rw [if_pos widened, if_pos capped, ← named]
          simp [Client.setCooldown]
        · have narrowed : ¬ ∃ q ∈ p :: (Client.tryCandidates toLower now call rest (some err)
              (if isCapError toLower err then c.setCooldown now p.name else c)).called,
              q.name = name ∧ capFailed toLower call q = true := by
            rintro ⟨q, member, named⟩
            rcases List.mem_cons.mp member with same | member
            · exact armed (same ▸ named)
            · exact later ⟨q, member, named⟩
          rw [if_neg narrowed]
          split_ifs with capped
          · have other : p.name ≠ name := fun named =>
              armed ⟨named, by simp [capFailed, outcome, capped]⟩
            simp [Client.setCooldown, Function.update_of_ne (Ne.symm other)]
          · rfl

/-- What a dispatch over a nonempty chain does. -/
structure AdvancesAsNeeded (toLower : Char → Char) (c : Client) (now : ℤ)
    (call : Provider → Except String String) (d : Dispatched) : Prop where
  /-- The candidates are in chain order: those not in cooldown, or all when all are. -/
  candidates_sublist : (c.candidates now).Sublist c.providers
  mem_candidates : ∀ p, p ∈ c.candidates now ↔ p ∈ c.providers ∧
    (c.inCooldown now p.name = false ∨ ∀ q ∈ c.providers, c.inCooldown now q.name = true)
  /-- The candidates are called in order up to the first success and no further. -/
  called : d.called = (c.candidates now).takeWhile (fun p => !(call p).isOk) ++
    ((c.candidates now).dropWhile (fun p => !(call p).isOk)).take 1
  called_nodup : d.called.Nodup
  /-- The result is the outcome of the last call. -/
  result : ∃ last, d.called.getLast? = some last ∧ d.result = call last
  /-- An error comes back only when every call failed. -/
  error_all_failed : ∀ err, d.result = .error err → ∀ p ∈ d.called, (call p).isOk = false
  /-- Exactly the called providers that failed with a cap error are armed. -/
  cooldowns : ∀ name, d.client.cooldowns name =
    if ∃ p ∈ d.called, p.name = name ∧ capFailed toLower call p = true then
      some (now + providerCooldown)
    else c.cooldowns name

/-- The one element taken from the front of a list ends whatever it is appended to. -/
theorem getLast?_append_take_one {α : Type} {x : α} {front rest : List α}
    (member : x ∈ rest.take 1) : (front ++ rest.take 1).getLast? = some x := by
  cases rest with
  | nil => simp at member
  | cons y ys =>
    simp only [List.take_succ_cons, List.take_zero, List.mem_singleton] at member
    simp [member]

/-- A nonempty chain has candidates, so the loop calls at least one provider. -/
theorem candidates_ne_nil (c : Client) (now : ℤ) (nonempty : c.providers ≠ []) :
    c.candidates now ≠ [] := by
  unfold Client.candidates
  dsimp only
  split_ifs with allCooling
  · exact nonempty
  · exact fun empty => allCooling (by rw [empty]; rfl)

theorem called_ne_nil (toLower : Char → Char) (now : ℤ) (call : Provider → Except String String)
    {candidates : List Provider} (lastErr : Option String) (c : Client)
    (nonempty : candidates ≠ []) : (Client.tryCandidates toLower now call candidates lastErr c).called ≠ [] := by
  obtain ⟨p, rest, rfl⟩ := List.exists_cons_of_ne_nil nonempty
  unfold Client.tryCandidates
  cases call p <;> simp

theorem dispatch_advances_only_as_needed (c : Client) (toLower : Char → Char) (now : ℤ)
    (call : Provider → Except String String) (nonempty : c.providers ≠ []) :
    AdvancesAsNeeded toLower c now call (c.dispatch toLower now call) := by
  have dispatched :
      c.dispatch toLower now call = Client.tryCandidates toLower now call (c.candidates now) none c := by
    unfold Client.dispatch
    rw [if_neg (by simpa [List.length_eq_zero_iff] using nonempty)]
  have calledEq := tryCandidates_called toLower now call (c.candidates now) none c
  have someCalled := called_ne_nil toLower now call none c (candidates_ne_nil c now nonempty)
  obtain ⟨last, lastCalled⟩ := Option.ne_none_iff_exists'.mp (mt List.getLast?_eq_none_iff.mp someCalled)
  have resultEq := tryCandidates_result toLower now call (c.candidates now) none c
  rw [lastCalled] at resultEq
  dsimp only at resultEq
  rw [dispatched]
  refine ⟨candidates_sublist c now, mem_candidates c now, calledEq, ?_, ⟨last, lastCalled, resultEq⟩,
    ?_, tryCandidates_cooldowns toLower now call (c.candidates now) none c⟩
  · -- the calls are a sublist of the chain, whose entries are distinct
    have prefixed : (Client.tryCandidates toLower now call (c.candidates now) none c).called <+:
        c.candidates now := by
      have whole := @List.takeWhile_append_dropWhile _ (fun p => !(call p).isOk) (c.candidates now)
      rw [calledEq]
      conv_rhs => rw [← whole]
      exact List.prefix_self_append_iff.mpr (List.take_prefix 1 _)
    exact (List.Nodup.of_map Provider.name c.distinct).sublist
      (prefixed.sublist.trans (candidates_sublist c now))
  · -- the last call failed, and every call before it is in the failing prefix
    intro err failed p member
    rw [calledEq] at member
    rcases List.mem_append.mp member with early | final
    · simpa using List.mem_takeWhile_imp early
    · -- the one call after the failing prefix is the last call, and it failed
      rw [calledEq, getLast?_append_take_one final, Option.some.injEq] at lastCalled
      rw [lastCalled, ← resultEq, failed]
      rfl

/-- A chain of Anthropic, cooling down until instant 100, then DeepSeek. -/
def coolingClient : Client where
  providers := [⟨"anthropic", .anthropic, "", "", ""⟩, ⟨"deepseek", .openAI, "", "", ""⟩]
  distinct := by decide
  cooldowns := fun name => if name = "anthropic" then some 100 else none

/-- DeepSeek answers that its quota is spent; Anthropic would answer. -/
def quotaCall (p : Provider) : Except String String :=
  if p.name = "deepseek" then .error "Monthly quota exceeded" else .ok "reply"

/-- Only DeepSeek is called; its quota error comes back and arms its cooldown. -/
example : (coolingClient.dispatch Char.toLower 50 quotaCall).called.map Provider.name = ["deepseek"] ∧
    (coolingClient.dispatch Char.toLower 50 quotaCall).result = .error "Monthly quota exceeded" ∧
    (coolingClient.dispatch Char.toLower 50 quotaCall).client.cooldowns "deepseek" =
      some (50 + providerCooldown) := by
  decide

theorem coolingClient_advances :
    coolingClient.providers ≠ [] ∧
      AdvancesAsNeeded Char.toLower coolingClient 50 quotaCall (coolingClient.dispatch Char.toLower 50 quotaCall) :=
  ⟨by simp [coolingClient],
    dispatch_advances_only_as_needed coolingClient Char.toLower 50 quotaCall (by simp [coolingClient])⟩

end MiniWorld.Llm
