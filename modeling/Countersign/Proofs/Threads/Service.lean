import Countersign.Proofs.Threads.Ledger
import Countersign.Proofs.Threads.OneResolver

/-!
# What a thread returns from its calls

A call for a sure realm with a configuration at hand is to return something that was found about the
realm.  With reliable configurations the turns of a thread that only resolves serve the call that it
is busy with, whatever other threads do in between: what was found once stays found.
-/

namespace Countersign
namespace Threads

variable {World : Type}

/-- Whether a call for a sure realm with a configuration at hand returned something that was found
about the realm. -/
def Call.Returns (sure : String → Prop) (fallback : Nat → Option (Config World))
    (found : String → Option Record → Prop) (call : Call World)
    (result : Except Failure (Option Record)) : Prop :=
  ∀ resolver challenge config realm, call = .resolve resolver challenge config →
    Challenge.parse challenge = .ok realm → sure realm → (config.or (fallback resolver)).isSome →
      ∃ entry, result = .ok entry ∧ found realm entry

/-- Whether a call brings a challenge for a realm. -/
def Call.IsFor (realm : String) (call : Call World) : Prop :=
  ∃ resolver challenge config, call = .resolve resolver challenge config ∧
    Challenge.parse challenge = .ok realm

/-- Whether what is left to be done serves a call, and returns nothing but what was found. -/
def Work.Serves (sure : String → Prop) (fallback : Nat → Option (Config World))
    (found : String → Option Record → Prop) (call : Call World) : Work World → Prop
  | look realm config => ∃ resolver challenge, call = .resolve resolver challenge config ∧
      Challenge.parse challenge = .ok realm
  | askUsername realm _ | askPassword realm _ _ | store realm _ => call.IsFor realm
  | leave result => call.Returns sure fallback found result
  | remove _ | removeAll => False

section Serving

variable {sure : String → Prop} {fallback : Nat → Option (Config World)}
  {found later : String → Option Record → Prop} {call : Call World} {work next : Work World}
  {realm : String}

theorem Call.Returns.mono {result : Except Failure (Option Record)}
    (returns : call.Returns sure fallback found result)
    (more : ∀ realm entry, found realm entry → later realm entry) :
    call.Returns sure fallback later result := by
  intro resolver challenge config realm called parsed isSure available
  obtain ⟨entry, returned, isFound⟩ :=
    returns resolver challenge config realm called parsed isSure available
  exact ⟨entry, returned, more realm entry isFound⟩

theorem Work.Serves.mono (serves : work.Serves sure fallback found call)
    (more : ∀ realm entry, found realm entry → later realm entry) :
    work.Serves sure fallback later call := by
  cases work with
  | leave result => exact Call.Returns.mono serves more
  | _ => exact serves

theorem Call.IsFor.returns {entry : Option Record} (isFor : call.IsFor realm)
    (isFound : found realm entry) : call.Returns sure fallback found (.ok entry) := by
  rintro resolver challenge config other rfl parsed - -
  obtain ⟨_, _, _, ⟨⟩, parsed'⟩ := isFor
  obtain rfl : other = realm := Except.ok.inj (parsed.symm.trans parsed')
  exact ⟨entry, rfl, isFound⟩

theorem Work.Serves.isFor (serves : work.Serves sure fallback found call)
    (isLooking : work.IsLookingUp realm) : call.IsFor realm := by
  cases work with
  | askUsername other | askPassword other | store other =>
      obtain rfl : other = realm := isLooking
      exact serves
  | look | remove | removeAll | leave => cases isLooking

/-- A turn under the lock goes on to serve the call that it serves. -/
theorem Work.Progress.serves {vault after : Vault World} {keys : List String}
    (progress : Work.Progress sure (fallback call.resolver) vault work next after keys)
    (serves : work.Serves sure fallback found call)
    (known : ∀ realm entry, vault.cache.find? realm = some entry → later realm entry)
    (stores : ∀ realm entry, work = .store realm entry → later realm entry) :
    next.Serves sure fallback later call := by
  cases progress with
  | known realm config entry isKnown =>
      obtain ⟨resolver, challenge, rfl, parsed⟩ := serves
      exact Call.IsFor.returns ⟨_, _, _, rfl, parsed⟩ (known realm entry isKnown)
  | unknown realm config given =>
      obtain ⟨resolver, challenge, rfl, parsed⟩ := serves
      exact ⟨_, _, _, rfl, parsed⟩
  | unconfigured realm config unavailable =>
      obtain ⟨resolver, challenge, rfl, -⟩ := serves
      rintro _ _ _ _ ⟨⟩ - - available
      change config.or (fallback resolver) = none at unavailable
      rw [unavailable] at available
      cases available
  | username | noUsername | password => exact serves
  | refused realm username config failure after unsure =>
      obtain ⟨resolver, challenge, config, rfl, parsed⟩ := serves
      rintro _ _ _ other ⟨⟩ parsed' isSure -
      obtain rfl : other = realm := Except.ok.inj (parsed'.symm.trans parsed)
      exact absurd isSure unsure
  | stored realm entry => exact Call.IsFor.returns serves (stores realm entry rfl)
  | removed | removedAll => exact absurd serves id

end Serving

/-- Whether a thread has returned from the calls that it has made what was found, and is busy with
the next one. -/
def Thread.IsSound (sure : String → Prop) (fallback : Nat → Option (Config World))
    (found : String → Option Record → Prop) (calls : List (Call World)) (thread : Thread World) :
    Prop :=
  ∃ made rest, calls = made ++ rest ∧ made.length = thread.returned.length ∧
    (∀ pair ∈ made.zip thread.returned, pair.1.Returns sure fallback found pair.2) ∧
    match thread.stage with
    | .idle => rest = thread.pending
    | .waiting resolver work => ∃ call realm config, rest = call :: thread.pending ∧
        call.resolver = resolver ∧ work = .look realm config ∧ work.IsProvided sure ∧
          work.Serves sure fallback found call
    | .holding resolver work => ∃ call, rest = call :: thread.pending ∧ call.resolver = resolver ∧
        work.IsProvided sure ∧ work.Serves sure fallback found call

theorem Thread.IsSound.mono {sure : String → Prop} {fallback : Nat → Option (Config World)}
    {found later : String → Option Record → Prop} {calls : List (Call World)}
    {thread : Thread World} (sound : thread.IsSound sure fallback found calls)
    (more : ∀ realm entry, found realm entry → later realm entry) :
    thread.IsSound sure fallback later calls := by
  obtain ⟨made, rest, split, lengths, held, now⟩ := sound
  refine ⟨made, rest, split, lengths, fun pair member => (held pair member).mono more, ?_⟩
  rcases thread with ⟨_ | ⟨resolver, work⟩ | ⟨resolver, work⟩, pending, returned⟩
  · exact now
  · obtain ⟨call, realm, config, next, on, looks, reliable, serves⟩ := now
    exact ⟨call, realm, config, next, on, looks, reliable, serves.mono more⟩
  · obtain ⟨call, next, on, reliable, serves⟩ := now
    exact ⟨call, next, on, reliable, serves.mono more⟩

/-- A call of a sound thread has returned what was found. -/
theorem Thread.IsSound.returns {sure : String → Prop} {fallback : Nat → Option (Config World)}
    {found : String → Option Record → Prop} {calls : List (Call World)} {thread : Thread World}
    (sound : thread.IsSound sure fallback found calls) {place : Nat} {call : Call World}
    {result : Except Failure (Option Record)} (called : calls[place]? = some call)
    (ended : thread.returned[place]? = some result) : call.Returns sure fallback found result := by
  obtain ⟨made, rest, rfl, lengths, held, -⟩ := sound
  exact held (call, result) (State.mem_zip_of_getElem? lengths called ended)

/-- A thread whose call returns what was found is between calls. -/
theorem Thread.isSound_of_returns {sure : String → Prop} {fallback : Nat → Option (Config World)}
    {found : String → Option Record → Prop} {calls made pending : List (Call World)}
    {call : Call World} {returned : List (Except Failure (Option Record))}
    {result : Except Failure (Option Record)} (split : calls = made ++ call :: pending)
    (lengths : made.length = returned.length)
    (held : ∀ pair ∈ made.zip returned, pair.1.Returns sure fallback found pair.2)
    (returns : call.Returns sure fallback found result) :
    ({ stage := .idle, pending, returned := returned ++ [result] } : Thread World).IsSound sure
      fallback found calls := by
  refine ⟨made ++ [call], pending, by simpa using split, by simpa using lengths, ?_, rfl⟩
  intro pair member
  rw [List.zip_append lengths, List.mem_append] at member
  rcases member with earlier | last
  · exact held pair earlier
  · obtain rfl := List.mem_singleton.mp last
    exact returns

section Beginning

variable {sure : String → Prop} {fallback : Nat → Option (Config World)}
  {found : String → Option Record → Prop} {call : Call World} {vault : Vault World}

/-- A call that returns at once returns what is known. -/
theorem Call.returns_of_answer {entry : Option Record} {events : List Event}
    (answered : call.begin vault = { result := .ok (.ok entry), state := vault, events })
    (known : ∀ realm entry, vault.cache.find? realm = some entry → found realm entry) :
    call.Returns sure fallback found (.ok entry) := by
  rintro resolver challenge config realm rfl parsed - -
  refine ⟨entry, rfl, known realm entry ?_⟩
  cases looked : vault.cache.find? realm with
  | some other =>
      simp only [Call.begin, parsed, Action.bind_apply, Vault.entryFor_apply, looked,
        Action.pure_apply] at answered
      cases answered
      rfl
  | none =>
      simp only [Call.begin, parsed, Action.bind_apply, Vault.entryFor_apply, looked,
        Action.pure_apply] at answered
      cases answered

/-- A call that wants the lock is for a realm that it will look for again. -/
theorem Call.serves_of_want {work : Work World} (resolves : call.IsResolve)
    (wanted : call.begin vault = { result := .ok (.error work), state := vault, events := [] }) :
    ∃ realm config, work = .look realm config ∧ work.Serves sure fallback found call := by
  rcases Call.want_cases wanted with
    ⟨resolver, challenge, config, realm, rfl, parsed, -, rfl⟩ | ⟨_, _, rfl, -⟩ | ⟨_, rfl, -⟩
  · exact ⟨realm, config, rfl, resolver, challenge, rfl, parsed⟩
  · exact absurd resolves id
  · exact absurd resolves id

end Beginning

end Threads
end Countersign
