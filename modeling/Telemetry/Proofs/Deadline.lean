import Telemetry.Proofs.Answers
import Telemetry.Proofs.Json.Continued
import Telemetry.Proofs.Seconds
import Telemetry.Proofs.Settings

/-!
How long a reply is waited for. The sum of the timeouts and the grace is exact if there is
such a duration. There is none for the longest timeouts, and these are accepted as options;
a send then panics before it asks any worker. A text cannot give such a timeout, because
doubles of that size are too far apart.
-/

namespace Telemetry

namespace Duration

/-- The first count of nanoseconds that is none of a duration. -/
def endNanos : Nat :=
  0x10000000000000000 * nanosPerSec

theorem totalNanos_lt {d : Duration} (hvalid : d.Valid) : d.totalNanos < endNanos := by
  obtain ⟨hsecs, hnanos⟩ := hvalid
  unfold totalNanos endNanos
  unfold nanosPerSec at *
  omega

/-- A sum is exact or it is none. -/
theorem add?_cases (a b : Duration) :
    (∃ sum, a.add? b = some sum ∧ sum.Valid ∧
      sum.totalNanos = a.totalNanos + b.totalNanos) ∨
    a.add? b = none ∧ endNanos ≤ a.totalNanos + b.totalNanos := by
  have hcarried := Nat.div_add_mod (a.nanos + b.nanos) nanosPerSec
  have hnanos : (a.nanos + b.nanos) % nanosPerSec < nanosPerSec :=
    Nat.mod_lt _ (by decide)
  unfold add?
  dsimp only
  split
  next hsecs =>
    refine Or.inl ⟨_, rfl, ⟨hsecs, hnanos⟩, ?_⟩
    unfold totalNanos
    dsimp only
    unfold nanosPerSec at *
    omega
  next hsecs =>
    refine Or.inr ⟨rfl, ?_⟩
    unfold totalNanos endNanos
    unfold nanosPerSec at *
    omega

end Duration

namespace HttpDelivery

variable {t : HttpDelivery}

/-- The timeouts and the grace together, in nanoseconds. -/
def waitNanos (t : HttpDelivery) : Nat :=
  t.connectTimeout.totalNanos + t.requestTimeout.totalNanos + replyGrace.totalNanos

theorem deadline?_eq (t : HttpDelivery) :
    t.deadline? = (t.connectTimeout.add? t.requestTimeout).bind (·.add? replyGrace) :=
  rfl

theorem deadline?_cases (t : HttpDelivery) :
    (∃ wait, t.deadline? = some wait ∧ wait.Valid ∧ wait.totalNanos = t.waitNanos) ∨
    t.deadline? = none ∧ Duration.endNanos ≤ t.waitNanos := by
  rw [deadline?_eq, waitNanos]
  rcases t.connectTimeout.add?_cases t.requestTimeout with
    ⟨timeouts, htimeouts, _, hexact⟩ | ⟨hnone, hlong⟩
  · rw [htimeouts, Option.bind_some, ← hexact]
    exact timeouts.add?_cases replyGrace
  · rw [hnone]
    exact Or.inr ⟨rfl, Nat.le_add_right_of_le hlong⟩

end HttpDelivery

namespace RoundTrip

variable {e : RoundTrip}

/-- A send panics only over its deadline, and then nothing has been posted. -/
theorem panicked_iff (hbelow : e.Below) :
    e.answer = .panicked ↔
      (∃ body, e.transport.format.encodeCall e.call = .ok body) ∧ e.transport.deadline? = none := by
  unfold answer
  cases hjob : e.job? with
  | none =>
    rcases sent_of_no_job hjob with ⟨error, hbody, hsent⟩ | ⟨hbody, hwait, hsent⟩
    · simp [hsent, hbody]
    · simp [hsent, hbody, hwait]
  | some job =>
    obtain ⟨_, _, wait, hwait⟩ := of_job hjob
    rcases sent_of_job hjob hbelow with ⟨_, _, _, _, hsent, _⟩ | ⟨_, _, hsent, _⟩
    · simp [hsent, hwait]
    · simp [hsent, hwait]

theorem posted_of_panicked (hbelow : e.Below) (hanswer : e.answer = .panicked) :
    e.sent.posted = none := by
  have hwait := ((panicked_iff hbelow).mp hanswer).2
  have hjob : e.job? = none := by
    unfold job?
    rw [hwait]
    split
    next hnone => cases hnone
    next => rfl
  rcases sent_of_no_job hjob with ⟨_, _, hsent⟩ | ⟨_, _, hsent⟩
  · rw [hsent]
  · rw [hsent]

end RoundTrip

namespace HttpDelivery

/-- Whatever the options and the timeout of requests, and however a transport with them
has been used: the time to wait is exact, or it is longer than any duration. A send panics
if it is, before anything is posted, and at no other time. -/
theorem panicked_iff_too_long (options : Options) (requestTimeout : Duration)
    (uses : List Use) :
    let t : HttpDelivery := { ofOptions options with requestTimeout }
    let nanos := options.connect.connectTimeout.totalNanos + requestTimeout.totalNanos + 500000000
    (nanos < Duration.endNanos →
      ∃ wait, t.deadline? = some wait ∧ wait.Valid ∧ wait.totalNanos = nanos) ∧
    ∀ e ∈ t.trips {} uses,
      (e.answer = .panicked ↔ Duration.endNanos ≤ nanos) ∧
      (e.answer = .panicked → e.sent.posted = none) := by
  intro t nanos
  have hcases : (∃ wait, t.deadline? = some wait ∧ wait.Valid ∧ wait.totalNanos = nanos) ∨
      t.deadline? = none ∧ Duration.endNanos ≤ nanos := t.deadline?_cases
  have hdeadline : t.deadline? = none ↔ Duration.endNanos ≤ nanos := by
    rcases hcases with ⟨wait, hwait, hvalid, hexact⟩ | ⟨hnone, hlong⟩
    · have hshort := Duration.totalNanos_lt hvalid
      rw [hexact] at hshort
      simp [hwait, Nat.not_le.mpr hshort]
    · simp [hnone, hlong]
  refine ⟨?_, ?_⟩
  · intro hshort
    rcases hcases with hexact | ⟨_, hlong⟩
    · exact hexact
    · exact absurd hlong (Nat.not_le.mpr hshort)
  · intro e hmember
    have hleads := leadsTo_trips (knows_new _ _ _ _ _) uses e hmember
    have hbelow : e.Below := hleads.knows.below
    have hbody : ∃ body, e.transport.format.encodeCall e.call = .ok body := by
      rw [hleads.format]
      exact ⟨_, rfl⟩
    refine ⟨?_, RoundTrip.posted_of_panicked hbelow⟩
    rw [RoundTrip.panicked_iff hbelow, hleads.deadline, ← hdeadline]
    exact ⟨fun hpanicked => hpanicked.2, fun hwait => ⟨hbody, hwait⟩⟩

/-- A transport that gives up connecting after so long. -/
def Patience.options (connectTimeout : Duration) : Options where
  transport := .http
  connect := { connectTimeout }

def Patience.uses : List Use :=
  [.send ⟨""⟩ ⟨⟨"", 0, ""⟩, 1, 2, [], [], []⟩ {}]

/-- With the timeout that requests have by default, ten seconds and a half are left of the
longest duration. -/
theorem panicked_iff_too_long_brim :
    let answers (connectTimeout : Duration) :=
      ((ofOptions (Patience.options connectTimeout)).trips {} Patience.uses).map (·.answer)
    let longest : Duration := ⟨0xfffffffffffffff5, 499999999⟩
    let t : HttpDelivery := { ofOptions (Patience.options longest) with requestTimeout := .ofSecs 10 }
    answers longest = [.settled (.failed
      (.http "no reply from http worker within 18446744073709551615.999999999s"))] ∧
    answers ⟨0xfffffffffffffff5, 500000000⟩ = [.panicked] ∧
    (longest.totalNanos + 10000000000 + 500000000 < Duration.endNanos →
      ∃ wait, t.deadline? = some wait ∧ wait.Valid ∧
        wait.totalNanos = longest.totalNanos + 10000000000 + 500000000) ∧
    ∀ e ∈ t.trips {} Patience.uses,
      (e.answer = .panicked ↔
        Duration.endNanos ≤ longest.totalNanos + 10000000000 + 500000000) ∧
      (e.answer = .panicked → e.sent.posted = none) :=
  ⟨by decide +kernel, by decide +kernel,
    panicked_iff_too_long (Patience.options ⟨0xfffffffffffffff5, 499999999⟩) (.ofSecs 10)
      Patience.uses⟩

/-- The longest duration is accepted as a timeout, and the first send panics. -/
theorem panicked_at_longest_timeout :
    let options := Patience.options ⟨0xffffffffffffffff, 999999999⟩
    options.validate = .ok () ∧ options.connect.connectTimeout.Valid ∧
      ((ofOptions options).trips {} Patience.uses).map (·.answer) = [.panicked] :=
  ⟨rfl, ⟨by decide, by decide⟩, by decide +kernel⟩

end HttpDelivery

/-! ## Timeouts out of a text -/

open Json Json.Document

theorem totalNanos_of_asDuration {document : Document} {d : Duration}
    (hread : asDuration document = .ok d) :
    d.totalNanos ≤ 0xfffffffffffff800 * Duration.nanosPerSec := by
  obtain ⟨x, _, hread⟩ := ok_of_bind_ok hread
  cases hseconds : Duration.ofSeconds x with
  | ok own =>
    rw [hseconds] at hread
    cases hread
    exact Duration.totalNanos_of_ofSeconds hseconds
  | error refusal =>
    rw [hseconds] at hread
    cases hread

/-- The timeout is none of the longest durations. -/
structure ConnectOptions.Short (o : ConnectOptions) : Prop where
  bound : o.connectTimeout.totalNanos ≤ 0xfffffffffffff800 * Duration.nanosPerSec

theorem ConnectOptions.short_default : ({} : ConnectOptions).Short :=
  ⟨by decide⟩

theorem ConnectOptions.short_of_read {source : Source} {document : Document} {o : ConnectOptions}
    (hread : ConnectOptions.ofDocument source document = .ok o) : o.Short := by
  refine Setting.of_readAll Short ?_ short_default hread
  simp only [settings, List.forall_mem_cons]
  exact ⟨Setting.of_change Short fun _ _ hread _ _ => ⟨totalNanos_of_asDuration hread⟩,
    Setting.of_change Short fun _ _ _ _ ho => ⟨ho.bound⟩,
    Setting.of_change Short fun _ _ _ _ ho => ⟨ho.bound⟩, nofun⟩

theorem Options.short_of_read {source : Source} {document : Document} {options : Options}
    (hread : Options.ofDocument source document = .ok options) : options.connect.Short := by
  let law (o : Options) : Prop := o.connect.Short
  refine Setting.of_readAll law ?_ ConnectOptions.short_default hread
  simp only [settings, List.forall_mem_cons]
  refine ⟨?_, ?_, ?_, ?_, ?_, ?_, ?_, ?_, ?_, ?_, ?_, ?_, ?_,
    Setting.of_change law fun _ _ hread _ _ => ConnectOptions.short_of_read hread, nofun⟩
  all_goals exact Setting.of_change law fun _ _ _ _ ho => ho

/-- Options out of a text leave room for the timeout that requests have by default, so no
text makes a send panic. -/
theorem HttpDelivery.deadline_of_text {octets : List UInt8} {options : Options}
    (hparse : Options.parse octets = .ok options) :
    ∃ wait, (HttpDelivery.ofOptions options).deadline? = some wait := by
  obtain ⟨document, _, _, hread, _⟩ := exists_reads_of_readText hparse
  have hshort : options.connect.Short := Options.short_of_read hread
  rcases (HttpDelivery.ofOptions options).deadline?_cases with ⟨wait, hwait, _⟩ | ⟨_, hlong⟩
  · exact ⟨wait, hwait⟩
  · have hsum : (HttpDelivery.ofOptions options).waitNanos =
        options.connect.connectTimeout.totalNanos + (Duration.ofSecs 10).totalNanos +
          HttpDelivery.replyGrace.totalNanos := rfl
    have hrequest : (Duration.ofSecs 10).totalNanos = 10000000000 := by decide
    have hgrace : HttpDelivery.replyGrace.totalNanos = 500000000 := by decide
    have hbound := hshort.bound
    rw [hsum, hrequest, hgrace] at hlong
    unfold Duration.endNanos at hlong
    unfold Duration.nanosPerSec at *
    omega

end Telemetry
