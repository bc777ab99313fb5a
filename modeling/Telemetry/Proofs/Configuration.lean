import Telemetry.Proofs.Json.Continued
import Telemetry.Proofs.Json.Doubles
import Telemetry.Proofs.Settings

/-!
Options out of a text that gives some of them. Whatever is given is set, in whatever form
and order, and everything else keeps its default, one level down as well.
-/

namespace Telemetry

open Json Json.Document

namespace Json.Script

/-- A name, as a text or as the only key of an object without a value. -/
def variant? : Script → Option String
  | .string glyphs => Glyph.text? glyphs
  | .object (.last key _ .null _) => Glyph.text? key.glyphs
  | _ => none

theorem document_of_variant? {script : Script} {name : String}
    (hvariant : script.variant? = some name) :
    script.document = .string (.ok name) ∨ script.document = .object [(.ok name, .null)] none := by
  unfold variant? at hvariant
  split at hvariant
  next glyphs => exact Or.inl (congrArg Document.string (Glyph.closedText_pieces hvariant))
  next key before after =>
    refine Or.inr ?_
    rw [document, Members.documents, Glyph.closedText_pieces hvariant]
    rfl
  next => cases hvariant

end Json.Script

/-! ## The forms of a value -/

namespace Form

def text (s : String) (script : Script) : Prop :=
  script.text? = some s

def flag (b : Bool) (script : Script) : Prop :=
  script.flag? = some b

def whole (n : Nat) (script : Script) : Prop :=
  script.int? = some (n : Int)

/-- A number of seconds is given by a number that stands for it. The double has to be below
two to the power of 64. So of the whole numbers of 64 bits the last 1024 are left out, as
18446744073709551615 is: they are rounded up to it, and refused. -/
def seconds (given : Seconds) (script : Script) : Prop :=
  ∃ figure, script = .number figure ∧ figure.Reads given.number

def variant (name : String) (script : Script) : Prop :=
  script.variant? = some name

def orNull {γ : Type} (form : γ → Script → Prop) : Option γ → Script → Prop
  | none, script => script.isNull = true
  | some given, script => form given script

section

variable {script : Script}

theorem asText_of_text (s : String) (script : Script) (hform : text s script) :
    asText script.document = .ok s := by
  rw [Script.document_of_text? hform]
  rfl

theorem asBool_of_flag (b : Bool) (script : Script) (hform : flag b script) :
    asBool script.document = .ok b := by
  rw [Script.document_of_flag? hform]
  rfl

theorem asInt_of_whole {n : Nat} (hform : whole n script) (kind : String) {high : Int}
    (hhigh : (n : Int) ≤ high) (hword : high ≤ 0xffffffffffffffff) :
    script.document.asInt kind 0 high = .ok (n : Int) := by
  have hn : IsWord n := ⟨by omega, by omega⟩
  rw [Script.document_of_int? hform hn]
  exact if_pos ⟨by omega, hhigh⟩

theorem asSize_of_whole (n : UInt64) (script : Script)
    (hform : whole n.toNat script) :
    asSize script.document = .ok n.toNat := by
  have hn := n.toNat_lt
  unfold asSize
  rw [asInt_of_whole hform "usize" (by omega) (by omega)]
  rfl

theorem asAttempts_of_whole (n : UInt32) (script : Script)
    (hform : whole n.toNat script) :
    asAttempts script.document = .ok n.toNat := by
  have hn := n.toNat_lt
  unfold asAttempts
  rw [asInt_of_whole hform "u32" (by omega) (by omega)]
  rfl

theorem asPort_of_whole (n : UInt16) (script : Script)
    (hform : whole n.toNat script) :
    asPort script.document = .ok n.toNat := by
  have hn := n.toNat_lt
  unfold asPort
  rw [asInt_of_whole hform "u16" (by omega) (by omega)]
  rfl

theorem asDuration_of_seconds (given : Seconds) (script : Script)
    (hform : seconds given script) :
    asDuration script.document = .ok given.duration := by
  obtain ⟨figure, rfl, hreads⟩ := hform
  obtain ⟨x, hx, hvalue⟩ := Figure.asDouble_of_reads hreads given.finite
  unfold asDuration
  rw [Script.document, hx]
  dsimp only [bind, Except.bind]
  rw [given.ofSeconds_of_value? hvalue]

/-- A number that is rounded up to two to the power of 64 is refused. -/
theorem asDuration_refused {figure : Figure} (hexact : figure.Exact)
    (hsign : figure.negative = false) (hlarge : 2 ^ 64 - 2 ^ 10 ≤ figure.value) :
    asDuration (Script.number figure).document =
      .error (.refused Duration.Refusal.tooLarge.message) := by
  obtain ⟨y, ⟨count, place, hrounds⟩, hy⟩ := Figure.exists_rounded hexact
  have hnearest := hrounds.near
  rw [← Figure.value_unsigned hsign] at hnearest
  have hbeyond := mt (hnearest.lt_iff hrounds.value).mp (not_lt.mpr hlarge)
  have hsigned : figure.signed y = y := if_neg (by simp [hsign])
  unfold asDuration
  rw [Script.document, hy, hsigned]
  dsimp only [bind, Except.bind]
  rw [Duration.ofSeconds_of_large hrounds.value (not_lt.mp hbeyond)]

theorem asVariant_of_variant {α : Type} {variants : List (String × α)} {name : String} {value : α}
    (hform : variant name script) (hvariant : variants.lookup name = some value)
    (source : Source) : asVariant source variants script.document = .ok value := by
  have hchosen : chosen variants name = .ok value := by
    unfold chosen
    rw [hvariant]
  rcases Script.document_of_variant? hform with hdocument | hdocument
  · rw [hdocument]
    cases source with
    | text => exact hchosen
    | value => exact hchosen
  · rw [hdocument]
    cases source with
    | text =>
      unfold asVariant asVariantInText
      dsimp only
      rw [hchosen]
      rfl
    | value =>
      unfold asVariant asVariantInValue
      dsimp only
      rw [hchosen]
      rfl

theorem asOptional_of_orNull {α γ : Type} {form : γ → Script → Prop} {read : Document → Result α}
    {value : γ → α}
    (hread : ∀ given script, form given script → read script.document = .ok (value given))
    (hnull : ∀ given script, form given script → script.isNull = false)
    (given : Option γ) (script : Script) (hform : orNull form given script) :
    asOptional read script.document = .ok (given.map value) := by
  cases given with
  | none =>
    rw [Script.document_of_isNull hform]
    rfl
  | some given =>
    refine asOptional_some ?_ (hread given script hform)
    cases script with
    | null => cases hnull given .null hform
    | _ => exact nofun

theorem isNull_of_text (s : String) (script : Script) (hform : text s script) :
    script.isNull = false := by
  cases script with
  | null => cases hform
  | _ => rfl

theorem isNull_of_whole (n : Nat) (script : Script) (hform : whole n script) :
    script.isNull = false := by
  cases script with
  | null => cases hform
  | _ => rfl

theorem asPort_of_orNull (given : Option UInt16) (script : Script)
    (hform : orNull (fun n : UInt16 => whole n.toNat) given script) :
    asOptional asPort script.document = .ok (given.map UInt16.toNat) :=
  asOptional_of_orNull asPort_of_whole (fun n => isNull_of_whole n.toNat) given script hform

theorem asText_of_orNull (given : Option String) (script : Script)
    (hform : orNull text given script) : asOptional asText script.document = .ok given :=
  (asOptional_of_orNull asText_of_text isNull_of_text given script hform).trans
    (congrArg Except.ok Option.map_id')

theorem asVariant_of_transport (source : Source) (kind : TransportKind) (script : Script)
    (hform : variant kind.name script) :
    asVariant source TransportKind.variants script.document = .ok kind :=
  asVariant_of_variant hform (by cases kind <;> rfl) source

theorem asVariant_of_delivery (source : Source) (kind : DeliveryGuarantee) (script : Script)
    (hform : variant kind.name script) :
    asVariant source DeliveryGuarantee.variants script.document = .ok kind :=
  asVariant_of_variant hform (by cases kind <;> rfl) source

end

end Form

/-! ## What is given of the options -/

/-- The part of the connect options that a text gives. -/
structure ConnectOptions.Given where
  connectTimeout : Option Seconds := none
  connectAttempts : Option UInt32 := none
  maxBytesPerWrite : Option UInt64 := none

/-- The part of the options that a text gives. A null may be given where there need not be
a value. -/
structure Options.Given where
  serviceHost : Option String := none
  servicePort : Option (Option UInt16) := none
  servicePath : Option String := none
  secure : Option Bool := none
  maxLogRecords : Option UInt64 := none
  maxSpanRecords : Option UInt64 := none
  reportingPeriod : Option Seconds := none
  maxPayloadDepth : Option UInt64 := none
  debug : Option Bool := none
  groupName : Option (Option String) := none
  accessToken : Option (Option String) := none
  transport : Option TransportKind := none
  delivery : Option DeliveryGuarantee := none
  connect : Option ConnectOptions.Given := none

namespace ConnectOptions.Given

/-- What is given, and the other options for the rest. -/
def setIn (given : ConnectOptions.Given) (o : ConnectOptions) : ConnectOptions where
  connectTimeout := given.connectTimeout.elim o.connectTimeout Seconds.duration
  connectAttempts := given.connectAttempts.elim o.connectAttempts UInt32.toNat
  maxBytesPerWrite := given.maxBytesPerWrite.elim o.maxBytesPerWrite UInt64.toNat

/-- Under each name stands what is given there, and nothing under the others. -/
structure Named (given : ConnectOptions.Given) (members : List (String × Script)) : Prop where
  connectTimeout : Stands "connect_timeout" Form.seconds given.connectTimeout members
  connectAttempts :
    Stands "connect_attempts" (fun n => Form.whole n.toNat) given.connectAttempts members
  maxBytesPerWrite :
    Stands "max_bytes_per_write" (fun n => Form.whole n.toNat) given.maxBytesPerWrite members

/-- The text is an object that gives this part. Its members may stand in any order, with
others of unknown names among them. -/
def Presents (given : ConnectOptions.Given) (script : Script) : Prop :=
  ∃ members ∈ script.members?, given.Named members

end ConnectOptions.Given

namespace Options.Given

def setIn (given : Options.Given) (o : Options) : Options where
  serviceHost := given.serviceHost.elim o.serviceHost id
  servicePort := given.servicePort.elim o.servicePort (·.map UInt16.toNat)
  servicePath := given.servicePath.elim o.servicePath id
  secure := given.secure.elim o.secure id
  maxLogRecords := given.maxLogRecords.elim o.maxLogRecords UInt64.toNat
  maxSpanRecords := given.maxSpanRecords.elim o.maxSpanRecords UInt64.toNat
  reportingPeriod := given.reportingPeriod.elim o.reportingPeriod Seconds.duration
  maxPayloadDepth := given.maxPayloadDepth.elim o.maxPayloadDepth UInt64.toNat
  debug := given.debug.elim o.debug id
  groupName := given.groupName.elim o.groupName id
  accessToken := given.accessToken.elim o.accessToken id
  transport := given.transport.elim o.transport id
  delivery := given.delivery.elim o.delivery id
  connect := given.connect.elim o.connect fun connect => connect.setIn {}

structure Named (given : Options.Given) (members : List (String × Script)) : Prop where
  serviceHost : Stands "service_host" Form.text given.serviceHost members
  servicePort :
    Stands "service_port" (Form.orNull fun n => Form.whole n.toNat) given.servicePort members
  servicePath : Stands "service_path" Form.text given.servicePath members
  secure : Stands "secure" Form.flag given.secure members
  maxLogRecords :
    Stands "max_log_records" (fun n => Form.whole n.toNat) given.maxLogRecords members
  maxSpanRecords :
    Stands "max_span_records" (fun n => Form.whole n.toNat) given.maxSpanRecords members
  reportingPeriod : Stands "reporting_period_secs" Form.seconds given.reportingPeriod members
  maxPayloadDepth :
    Stands "max_payload_depth" (fun n => Form.whole n.toNat) given.maxPayloadDepth members
  debug : Stands "debug" Form.flag given.debug members
  groupName : Stands "group_name" (Form.orNull Form.text) given.groupName members
  accessToken : Stands "access_token" (Form.orNull Form.text) given.accessToken members
  transport : Stands "transport" (fun kind => Form.variant kind.name) given.transport members
  delivery : Stands "delivery" (fun kind => Form.variant kind.name) given.delivery members
  connect : Stands "connect" ConnectOptions.Given.Presents given.connect members

def Presents (given : Options.Given) (script : Script) : Prop :=
  ∃ members ∈ script.members?, given.Named members

end Options.Given

/-! ## What one setting changes -/

/-- Nothing but the option of this name differs. -/
structure ConnectOptions.OnlyAt (name : String) (o changed : ConnectOptions) : Prop where
  connectTimeout : "connect_timeout" ≠ name → changed.connectTimeout = o.connectTimeout
  connectAttempts : "connect_attempts" ≠ name → changed.connectAttempts = o.connectAttempts
  maxBytesPerWrite : "max_bytes_per_write" ≠ name → changed.maxBytesPerWrite = o.maxBytesPerWrite

structure Options.OnlyAt (name : String) (o changed : Options) : Prop where
  serviceHost : "service_host" ≠ name → changed.serviceHost = o.serviceHost
  servicePort : "service_port" ≠ name → changed.servicePort = o.servicePort
  servicePath : "service_path" ≠ name → changed.servicePath = o.servicePath
  secure : "secure" ≠ name → changed.secure = o.secure
  maxLogRecords : "max_log_records" ≠ name → changed.maxLogRecords = o.maxLogRecords
  maxSpanRecords : "max_span_records" ≠ name → changed.maxSpanRecords = o.maxSpanRecords
  reportingPeriod : "reporting_period_secs" ≠ name → changed.reportingPeriod = o.reportingPeriod
  maxPayloadDepth : "max_payload_depth" ≠ name → changed.maxPayloadDepth = o.maxPayloadDepth
  debug : "debug" ≠ name → changed.debug = o.debug
  groupName : "group_name" ≠ name → changed.groupName = o.groupName
  accessToken : "access_token" ≠ name → changed.accessToken = o.accessToken
  transport : "transport" ≠ name → changed.transport = o.transport
  delivery : "delivery" ≠ name → changed.delivery = o.delivery
  connect : "connect" ≠ name → changed.connect = o.connect

theorem ConnectOptions.onlyAt_settings : ∀ setting ∈ ConnectOptions.settings,
    ∀ document change, setting.read document = .ok change →
      ∀ o, OnlyAt setting.name o (change o) := by
  simp only [settings, List.forall_mem_cons]
  refine ⟨Setting.forall_change fun o v => ?_, Setting.forall_change fun o v => ?_,
    Setting.forall_change fun o v => ?_, nofun⟩
  all_goals
    constructor
    all_goals
      intro hname
      first | rfl | exact absurd rfl hname

theorem Options.onlyAt_settings (source : Source) : ∀ setting ∈ Options.settings source,
    ∀ document change, setting.read document = .ok change →
      ∀ o, OnlyAt setting.name o (change o) := by
  simp only [settings, List.forall_mem_cons]
  refine ⟨?_, ?_, ?_, ?_, ?_, ?_, ?_, ?_, ?_, ?_, ?_, ?_, ?_, ?_, nofun⟩
  all_goals
    refine Setting.forall_change fun o v => ?_
    constructor
    all_goals
      intro hname
      first | rfl | exact absurd rfl hname

/-! ## What is read -/

theorem ConnectOptions.ofDocument_presents (source : Source) (given : ConnectOptions.Given)
    (script : Script) (hpresents : given.Presents script) :
    ConnectOptions.ofDocument source script.document = .ok (given.setIn {}) := by
  obtain ⟨members, hmembers, hnamed⟩ := hpresents
  have htimeout := Setting.sets_of_stands Form.asDuration_of_seconds onlyAt_settings
    OnlyAt.connectTimeout rfl (fun _ _ => rfl) hnamed.connectTimeout
  have hattempts := Setting.sets_of_stands Form.asAttempts_of_whole onlyAt_settings
    OnlyAt.connectAttempts rfl (fun _ _ => rfl) hnamed.connectAttempts
  have hbytes := Setting.sets_of_stands Form.asSize_of_whole onlyAt_settings
    OnlyAt.maxBytesPerWrite rfl (fun _ _ => rfl) hnamed.maxBytesPerWrite
  refine Setting.readAll_object hmembers ?_ ?_
  · simp only [settings, List.forall_mem_cons]
    exact ⟨htimeout.readable, hattempts.readable, hbytes.readable, nofun⟩
  · intro after hwalk
    have heta : after.value = ⟨after.value.connectTimeout, after.value.connectAttempts,
      after.value.maxBytesPerWrite⟩ := rfl
    rw [heta, htimeout.get_walk hwalk, hattempts.get_walk hwalk, hbytes.get_walk hwalk]
    rfl

theorem Options.ofDocument_presents (source : Source) (given : Options.Given)
    (script : Script) (hpresents : given.Presents script) :
    Options.ofDocument source script.document = .ok (given.setIn {}) := by
  obtain ⟨members, hmembers, hnamed⟩ := hpresents
  have hlaws := onlyAt_settings source
  have hhost := Setting.sets_of_stands Form.asText_of_text hlaws
    OnlyAt.serviceHost rfl (fun _ _ => rfl) hnamed.serviceHost
  have hport := Setting.sets_of_stands Form.asPort_of_orNull hlaws
    OnlyAt.servicePort rfl (fun _ _ => rfl) hnamed.servicePort
  have hpath := Setting.sets_of_stands Form.asText_of_text hlaws
    OnlyAt.servicePath rfl (fun _ _ => rfl) hnamed.servicePath
  have hsecure := Setting.sets_of_stands Form.asBool_of_flag hlaws
    OnlyAt.secure rfl (fun _ _ => rfl) hnamed.secure
  have hlogs := Setting.sets_of_stands Form.asSize_of_whole hlaws
    OnlyAt.maxLogRecords rfl (fun _ _ => rfl) hnamed.maxLogRecords
  have hspans := Setting.sets_of_stands Form.asSize_of_whole hlaws
    OnlyAt.maxSpanRecords rfl (fun _ _ => rfl) hnamed.maxSpanRecords
  have hperiod := Setting.sets_of_stands Form.asDuration_of_seconds hlaws
    OnlyAt.reportingPeriod rfl (fun _ _ => rfl) hnamed.reportingPeriod
  have hdepth := Setting.sets_of_stands Form.asSize_of_whole hlaws
    OnlyAt.maxPayloadDepth rfl (fun _ _ => rfl) hnamed.maxPayloadDepth
  have hdebug := Setting.sets_of_stands Form.asBool_of_flag hlaws
    OnlyAt.debug rfl (fun _ _ => rfl) hnamed.debug
  have hgroup := Setting.sets_of_stands Form.asText_of_orNull hlaws
    OnlyAt.groupName rfl (fun _ _ => rfl) hnamed.groupName
  have htoken := Setting.sets_of_stands Form.asText_of_orNull hlaws
    OnlyAt.accessToken rfl (fun _ _ => rfl) hnamed.accessToken
  have htransport := Setting.sets_of_stands (Form.asVariant_of_transport source)
    hlaws OnlyAt.transport rfl (fun _ _ => rfl) hnamed.transport
  have hdelivery := Setting.sets_of_stands (Form.asVariant_of_delivery source)
    hlaws OnlyAt.delivery rfl (fun _ _ => rfl) hnamed.delivery
  have hconnect := Setting.sets_of_stands (ConnectOptions.ofDocument_presents source)
    hlaws OnlyAt.connect rfl (fun _ _ => rfl) hnamed.connect
  refine Setting.readAll_object hmembers ?_ ?_
  · simp only [settings, List.forall_mem_cons]
    exact ⟨hhost.readable, hport.readable, hpath.readable, hsecure.readable, hlogs.readable,
      hspans.readable, hperiod.readable, hdepth.readable, hdebug.readable, hgroup.readable,
      htoken.readable, htransport.readable, hdelivery.readable, hconnect.readable, nofun⟩
  · intro after hwalk
    have heta : after.value = ⟨after.value.serviceHost, after.value.servicePort,
      after.value.servicePath, after.value.secure, after.value.maxLogRecords,
      after.value.maxSpanRecords, after.value.reportingPeriod, after.value.maxPayloadDepth,
      after.value.debug, after.value.groupName, after.value.accessToken, after.value.transport,
      after.value.delivery, after.value.connect⟩ := rfl
    rw [heta, hhost.get_walk hwalk, hport.get_walk hwalk, hpath.get_walk hwalk,
      hsecure.get_walk hwalk, hlogs.get_walk hwalk, hspans.get_walk hwalk,
      hperiod.get_walk hwalk, hdepth.get_walk hwalk, hdebug.get_walk hwalk,
      hgroup.get_walk hwalk, htoken.get_walk hwalk, htransport.get_walk hwalk,
      hdelivery.get_walk hwalk, hconnect.get_walk hwalk]
    rfl

namespace Options.Sample

def digit (n : Nat) (hn : n < 10 := by decide) : Fin 10 :=
  ⟨n, hn⟩

theorem leading_of_val {whole : Digits} (hfirst : whole.first.val = 0 → whole.more = []) :
    whole.first = 0 → whole.more = [] :=
  fun hzero => hfirst (congrArg Fin.val hzero)

def figure (whole : Digits) (fraction : Option Digits)
    (hfirst : whole.first.val = 0 → whole.more = [] := by decide) : Figure where
  negative := false
  whole := whole
  leading := leading_of_val hfirst
  fraction := fraction
  power := none

def three : Figure :=
  figure ⟨digit 3, []⟩ none

def twelve : Figure :=
  figure ⟨digit 1, [digit 2]⟩ none

def twentyFive : Figure :=
  figure ⟨digit 2, [digit 5]⟩ none

def logs : Figure :=
  figure ⟨digit 4, [digit 0, digit 9, digit 6]⟩ none

def quarter : Figure :=
  figure ⟨digit 0, []⟩ (some ⟨digit 2, [digit 5]⟩)

def key (name : String) : Key :=
  ⟨[.feed, .space], Glyph.ofText name, []⟩

/-- Four names are unknown, and one of them is known elsewhere. -/
def script : Script :=
  .object (.next (key "future") [.space] (.array (.last [] .null [])) []
    (.next (key "reporting_period_secs") [] (.number quarter) []
    (.next (key "connect") [] (.object
      (.next (key "secure") [] (.number three) []
      (.next (key "connect_timeout") [] (.number twentyFive) []
      (.last (key "connect_attempts") [.space] (.number twelve) [.space])))) []
    (.next (key "service_host") [] (.string (Glyph.ofText "collector.local")) []
    (.next (key "max_log_records") [] (.number logs) []
    (.next (key "connect_attempts") [] (.bool true) []
    (.next (key "group_name") [] .null []
    (.next (key "secure") [.tab] (.bool false) []
    (.last (key "transport") [] (.object (.last (key "http") [] .null [])) [])))))))))

def quarterSecond : Seconds where
  number := 0.25
  value := 1 / 4
  finite := by
    have hsize : Double.magnitude? 0.25 = some ⟨0x10000000000000, -54⟩ := by decide +kernel
    have hsign : Double.isNegative 0.25 = false := by decide +kernel
    rw [Double.value?_eq, hsize, hsign]
    norm_num [Double.Magnitude.value]
  nonnegative := by norm_num
  below := by norm_num

def seconds : Seconds where
  number := 25
  value := 25
  finite := by
    have hsize : Double.magnitude? 25 = some ⟨0x19000000000000, -48⟩ := by decide +kernel
    have hsign : Double.isNegative 25 = false := by decide +kernel
    rw [Double.value?_eq, hsize, hsign]
    norm_num [Double.Magnitude.value]
  nonnegative := by norm_num
  below := by norm_num

def connect : ConnectOptions.Given where
  connectTimeout := some seconds
  connectAttempts := some 12

def given : Options.Given where
  serviceHost := some "collector.local"
  secure := some false
  maxLogRecords := some 4096
  reportingPeriod := some quarterSecond
  groupName := some none
  transport := some .http
  connect := some connect

end Options.Sample

end Telemetry
