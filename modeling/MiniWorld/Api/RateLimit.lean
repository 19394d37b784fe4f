import Mathlib.Data.List.TakeWhile
import Mathlib.Data.Int.Notation

/-! # The rate limiter of the LLM endpoints (`internal/api/ratelimit.go`, `deploy/nginx-crossworlds.conf`)

`/api/v1/newspaper` and the agent story route are wrapped in
`RateLimitMiddleware` with limiters of 10 and 30 requests an hour.  The
limiter keeps a bucket per key: a request with no bucket, or with one whose
window has passed, refills it with `maxRate - 1` tokens and passes; otherwise
it passes while tokens remain.

The key is not the client's address.  The middleware strips the port from
`RemoteAddr`, then replaces the result with the first comma-separated entry of
`X-Forwarded-For` whenever that header is set.  Behind the shipped nginx,
`RemoteAddr` is nginx's own loopback connection and `X-Forwarded-For` is
`$proxy_add_x_forwarded_for`: the header the client sent, with the client's
address appended.  So the key is whatever the client writes first in its own
header (`proxiedKey_forged`), and a client that writes a new value on every
request is never limited (`forged_entries_all_pass`).  Per key the limiter is
sound: at most `maxRate` requests of a key pass in the window that starts at
its bucket's reset (`window_passes_le_maxRate`).

Times are instants of one monotone clock, in the unit of `window`.  The hourly
`cleanup` goroutine, which deletes buckets more than two windows old, and the
`Retry-After` header of a refused request are not modelled.  Strings are read
as lists of characters, where Go indexes bytes; the separators `:` and `,` are
single bytes either way.
-/

namespace MiniWorld.Api

structure Bucket where
  tokens : ℤ
  lastReset : ℕ

/-- `RateLimiter`: the buckets by key, `maxRate` requests per `window`. -/
structure RateLimiter where
  buckets : String → Option Bucket
  maxRate : ℤ
  window : ℕ

def newRateLimiter (maxRate : ℤ) (window : ℕ) : RateLimiter :=
  { buckets := fun _ => none, maxRate := maxRate, window := window }

/-- `Allow`: the limiter after the request, and whether it passes. -/
def RateLimiter.allow (rl : RateLimiter) (ip : String) (now : ℕ) : RateLimiter × Bool :=
  let refill :=
    ({ rl with buckets := Function.update rl.buckets ip (some ⟨rl.maxRate - 1, now⟩) }, true)
  match rl.buckets ip with
  | none => refill
  | some b =>
    if now - b.lastReset ≥ rl.window then refill
    else if b.tokens > 0 then
      ({ rl with buckets := Function.update rl.buckets ip (some { b with tokens := b.tokens - 1 }) },
        true)
    else (rl, false)

/-! ## The key of a request -/

/-- The port strip of `RateLimitMiddleware`: the address up to its last `:`,
or the whole address when it has none. -/
def stripPort (addr : String) : String :=
  match addr.toList.reverse.dropWhile (· ≠ ':') with
  | [] => addr
  | _ :: before => String.ofList before.reverse

/-- The first entry of an `X-Forwarded-For` list: everything before the first comma. -/
def firstForwarded (xff : String) : String :=
  String.ofList (xff.toList.takeWhile (· ≠ ','))

/-- The bucket key of `RateLimitMiddleware`: the first `X-Forwarded-For` entry
when the header is set, else `RemoteAddr` without its port. -/
def clientKey (remoteAddr xff : String) : String :=
  if xff = "" then stripPort remoteAddr else firstForwarded xff

/-- `$proxy_add_x_forwarded_for`: the client's own `X-Forwarded-For` with
`$remote_addr` appended, or `$remote_addr` alone. -/
def proxyAddXForwardedFor (clientXff : Option String) (remoteAddr : String) : String :=
  match clientXff with
  | some xff => xff ++ ", " ++ remoteAddr
  | none => remoteAddr

/-- A request as a client sends it to nginx: its address, which nginx sees as
`$remote_addr`, and the `X-Forwarded-For` header it chose to send, if any. -/
structure ClientRequest where
  peer : String
  forwarded : Option String

/-- The key of a request that came through nginx: `RemoteAddr` is nginx's own
connection `upstream`, and `X-Forwarded-For` is `$proxy_add_x_forwarded_for`. -/
def proxiedKey (upstream : String) (req : ClientRequest) : String :=
  clientKey upstream (proxyAddXForwardedFor req.forwarded req.peer)

theorem not_comma_of_plain {entry : String} (plain : ',' ∉ entry.toList) :
    ∀ c ∈ entry.toList, decide (c ≠ ',') = true := by
  intro c member
  simpa using fun same : c = ',' => plain (same ▸ member)

/-- An entry without commas, followed by `, ` and more, is the first entry. -/
theorem firstForwarded_appended {entry rest : String} (plain : ',' ∉ entry.toList) :
    firstForwarded (entry ++ ", " ++ rest) = entry := by
  have separator : (", " : String).toList = [',', ' '] := by decide
  unfold firstForwarded
  rw [String.toList_append, String.toList_append, separator, List.append_assoc,
    List.takeWhile_append_of_pos (not_comma_of_plain plain)]
  simp [String.ofList_toList]

/-- The header nginx forwards for a client's own `X-Forwarded-For` is never empty. -/
theorem appended_ne_empty (entry peer : String) : entry ++ ", " ++ peer ≠ "" := by
  intro empty
  have separator : (", " : String).toList = [',', ' '] := by decide
  have listed := congrArg String.toList empty
  simp [String.toList_append, separator] at listed

/-- A request whose own `X-Forwarded-For` starts with a plain entry is keyed by
that entry, whatever address it comes from. -/
theorem proxiedKey_forged (upstream peer : String) {entry : String} (plain : ',' ∉ entry.toList) :
    proxiedKey upstream ⟨peer, some entry⟩ = entry := by
  simp only [proxiedKey, proxyAddXForwardedFor, clientKey, if_neg (appended_ne_empty entry peer),
    firstForwarded_appended plain]

/-! ## Serving a trace of requests -/

/-- `RateLimitMiddleware` over a trace of requests, each with its arrival
time: the limiter after, and for each request whether it reached the handler. -/
def serve (upstream : String) (rl : RateLimiter) : List (ClientRequest × ℕ) → RateLimiter × List Bool
  | [] => (rl, [])
  | (req, now) :: rest =>
    let allowed := rl.allow (proxiedKey upstream req) now
    let served := serve upstream allowed.1 rest
    (served.1, allowed.2 :: served.2)

/-- How many requests of the trace with key `key` reach the handler. -/
def passedFor (upstream key : String) (rl : RateLimiter) (trace : List (ClientRequest × ℕ)) : ℕ :=
  ((trace.zip (serve upstream rl trace).2).filter fun e =>
    decide (proxiedKey upstream e.1.1 = key) && e.2).length

theorem passedFor_cons (upstream key : String) (rl : RateLimiter) (req : ClientRequest) (now : ℕ)
    (rest : List (ClientRequest × ℕ)) :
    passedFor upstream key rl ((req, now) :: rest) =
      (if proxiedKey upstream req = key ∧ (rl.allow (proxiedKey upstream req) now).2 = true then 1
        else 0) + passedFor upstream key (rl.allow (proxiedKey upstream req) now).1 rest := by
  unfold passedFor
  simp only [serve, List.zip_cons_cons, List.filter_cons, Bool.and_eq_true, decide_eq_true_eq]
  split_ifs <;> simp [Nat.add_comm]

/-! ### What one `Allow` does -/

section Allow

variable (rl : RateLimiter) {ip : String} (now : ℕ)

@[simp] theorem allow_window : (rl.allow ip now).1.window = rl.window := by
  unfold RateLimiter.allow
  split
  · rfl
  · split_ifs <;> rfl

@[simp] theorem allow_maxRate : (rl.allow ip now).1.maxRate = rl.maxRate := by
  unfold RateLimiter.allow
  split
  · rfl
  · split_ifs <;> rfl

theorem allow_other {key : String} (other : key ≠ ip) :
    (rl.allow ip now).1.buckets key = rl.buckets key := by
  unfold RateLimiter.allow
  split
  · simp [Function.update_of_ne other]
  · split_ifs <;> simp [Function.update_of_ne other]

/-- A key with no bucket, or with one whose window has passed, is refilled
and passes. -/
theorem allow_opening (opens : ∀ b, rl.buckets ip = some b → rl.window ≤ now - b.lastReset) :
    (rl.allow ip now).2 = true ∧ (rl.allow ip now).1.buckets ip = some ⟨rl.maxRate - 1, now⟩ := by
  unfold RateLimiter.allow
  cases held : rl.buckets ip with
  | none => simp
  | some b => simp [opens b held]

theorem allow_spend {b : Bucket} (held : rl.buckets ip = some b) (open_ : now - b.lastReset < rl.window)
    (spare : 0 < b.tokens) :
    (rl.allow ip now).2 = true ∧ (rl.allow ip now).1.buckets ip = some ⟨b.tokens - 1, b.lastReset⟩ := by
  simp [RateLimiter.allow, held, Nat.not_le.mpr open_, spare]

theorem allow_refuse {b : Bucket} (held : rl.buckets ip = some b) (open_ : now - b.lastReset < rl.window)
    (empty : b.tokens ≤ 0) : rl.allow ip now = (rl, false) := by
  simp [RateLimiter.allow, held, Nat.not_le.mpr open_, Int.not_lt.mpr empty]

end Allow

/-- Inside its bucket's window, a key passes at most as many requests as the
bucket holds tokens: the induction is on the trace, and a pass spends a token. -/
theorem passedFor_le_tokens (upstream key : String) :
    ∀ (trace : List (ClientRequest × ℕ)) (rl : RateLimiter) (b : Bucket), rl.buckets key = some b →
      (∀ e ∈ trace, b.lastReset ≤ e.2 ∧ e.2 < b.lastReset + rl.window) →
      (passedFor upstream key rl trace : ℤ) ≤ max b.tokens 0
  | [], _, _, _, _ => by
    simp only [passedFor, serve, List.zip_nil_left, List.filter_nil, List.length_nil]
    omega
  | (req, now) :: rest, rl, b, held, within => by
    have later : ∀ e ∈ rest, b.lastReset ≤ e.2 ∧ e.2 < b.lastReset + rl.window :=
      fun e member => within e (List.mem_cons_of_mem _ member)
    have later' : ∀ e ∈ rest, b.lastReset ≤ e.2 ∧ e.2 < b.lastReset + (rl.allow (proxiedKey upstream req) now).1.window := by
      simpa using later
    obtain ⟨after, before⟩ := within (req, now) List.mem_cons_self
    rw [passedFor_cons]
    by_cases same : proxiedKey upstream req = key
    · -- the request spends a token of this bucket, or is refused
      subst same
      have open_ : now - b.lastReset < rl.window := by
        dsimp only at after before
        omega
      by_cases spare : 0 < b.tokens
      · obtain ⟨passes, spent⟩ := allow_spend rl now held open_ spare
        have rest_le := passedFor_le_tokens upstream _ rest _ _ spent later'
        dsimp only at rest_le
        rw [if_pos ⟨rfl, passes⟩]
        push_cast
        omega
      · have rest_le := passedFor_le_tokens upstream _ rest rl b held later
        rw [allow_refuse rl now held open_ (Int.not_lt.mp spare)]
        simpa using rest_le
    · have rest_le := passedFor_le_tokens upstream key rest _ b
        ((allow_other rl now (Ne.symm same)).trans held) later'
      simpa [same] using rest_le

/-- Per key the limiter holds: in the window that a request opens by refilling
its key's bucket, at most `maxRate` requests of that key pass, itself included. -/
theorem window_passes_le_maxRate (upstream : String) (rl : RateLimiter) (req : ClientRequest) (t : ℕ)
    (trace : List (ClientRequest × ℕ)) (positive : 1 ≤ rl.maxRate)
    (opens : ∀ b, rl.buckets (proxiedKey upstream req) = some b → rl.window ≤ t - b.lastReset)
    (within : ∀ e ∈ trace, t ≤ e.2 ∧ e.2 < t + rl.window) :
    (passedFor upstream (proxiedKey upstream req) rl ((req, t) :: trace) : ℤ) ≤ rl.maxRate := by
  obtain ⟨passes, refilled⟩ := allow_opening rl t opens
  have rest_le := passedFor_le_tokens upstream _ trace _ _ refilled (by simpa using within)
  dsimp only at rest_le
  rw [passedFor_cons, if_pos ⟨rfl, passes⟩]
  push_cast
  omega

/-! ## Forged entries -/

/-- Requests whose keys have no bucket yet all pass, when no two share a key. -/
theorem serve_fresh_keys (upstream peer : String) (now : ℕ) :
    ∀ (forged : List String) (rl : RateLimiter), forged.Nodup → (∀ x ∈ forged, ',' ∉ x.toList) →
      (∀ x ∈ forged, rl.buckets x = none) →
      (serve upstream rl (forged.map fun x => (⟨peer, some x⟩, now))).2 = forged.map fun _ => true
  | [], _, _, _, _ => rfl
  | x :: rest, rl, distinct, plain, fresh => by
    obtain ⟨notLater, restDistinct⟩ := List.nodup_cons.mp distinct
    have keyed := proxiedKey_forged upstream peer (plain x List.mem_cons_self)
    have opens : ∀ b, rl.buckets x = some b → rl.window ≤ now - b.lastReset := by
      simp [fresh x List.mem_cons_self]
    have passes := (allow_opening rl now opens).1
    simp only [List.map_cons, serve, keyed, passes, List.cons.injEq, true_and]
    refine serve_fresh_keys upstream peer now rest _ restDistinct
      (fun y member => plain y (List.mem_cons_of_mem x member)) ?_
    intro y member
    have other : y ≠ x := fun same => notLater (same ▸ member)
    rw [allow_other rl now other]
    exact fresh y (List.mem_cons_of_mem x member)

/-- From one address, requests that each put a new plain entry first in their
own `X-Forwarded-For` all reach the handler, however many there are. -/
theorem forged_entries_all_pass (upstream : String) (maxRate : ℤ) (window : ℕ) (peer : String)
    (forged : List String) (now : ℕ) (distinct : forged.Nodup) (plain : ∀ x ∈ forged, ',' ∉ x.toList) :
    (serve upstream (newRateLimiter maxRate window) (forged.map fun x => (⟨peer, some x⟩, now))).2 =
      forged.map fun _ => true :=
  serve_fresh_keys upstream peer now forged _ distinct plain fun _ _ => rfl

/-- Eleven `X-Forwarded-For` entries for the story endpoint's limit of ten an hour. -/
def forgedEntries : List String :=
  ["10.0.0.1", "10.0.0.2", "10.0.0.3", "10.0.0.4", "10.0.0.5", "10.0.0.6", "10.0.0.7", "10.0.0.8",
    "10.0.0.9", "10.0.0.10", "10.0.0.11"]

theorem eleven_forged_story_requests_pass :
    10 < forgedEntries.length ∧
      (serve "127.0.0.1:41000" (newRateLimiter 10 3600)
          (forgedEntries.map fun x => (⟨"203.0.113.7", some x⟩, 0))).2 =
        forgedEntries.map fun _ => true :=
  ⟨by decide, forged_entries_all_pass _ 10 3600 _ forgedEntries 0 (by decide) (by decide)⟩

end MiniWorld.Api
