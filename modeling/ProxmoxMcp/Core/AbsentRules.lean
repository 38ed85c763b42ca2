import ProxmoxMcp.Core.HaRules
import ProxmoxMcp.Core.PathExpansion
import ProxmoxMcp.Core.Sanitise

/-!
# Which rule an error answer names

A missing rule is answered with status 500 and Proxmox's wording for it, `no such HA rule '…'`. The
client looks for that wording, with the id it has asked for, in the detail it has kept of the
answer: without control characters, cut to `maxDetailBytes`, and without regard to the case of
letters.

The wording is the whole detail or has a **lead**: a detail that is read from the errors map of the
body has the name of the field in front of the reason.

So an answer that names **another** rule can be read as the absence of this one, and an answer that
names this very rule can go unrecognised. `ToldApart` says for which lead and ids neither happens
(`fetchRule_tellsApart_iff`).
-/

namespace ProxmoxMcp

open Interaction Text ProxmoxError
open Program hiding bind
open String (utf8Len)

variable [Externals]

/-! ### One reading of a rule -/

/-- A run of `fetchRule` that is answered with `reply` ends with `outcome`. -/
def Fetches (client : ProxmoxClient) (rule : String) (reply : Except HttpError HttpResponse)
    (outcome : Except ProxmoxError (Option Json)) : Prop :=
  ∃ (ticket : ℕ) (events : List (Event Effect)),
    Reaches (fetchRule client rule).run events (.done outcome) ∧
      ⟨.http (.await ticket), reply⟩ ∈ events

/-- A reading that can be sent is one request, and its reply is all it goes by. -/
private theorem run_fetchRule {client : ProxmoxClient} {rule : String}
    (hsendable : client.Sendable (fetchRuleRequest rule)) : (fetchRule client rule).run =
      .perform (.http (.dispatch client.name (fetchRuleRequest rule))) fun (ticket : ℕ) =>
        .perform (.http (.await ticket)) fun (reply : Except HttpError HttpResponse) =>
          .done (readRule rule (ProxmoxClient.readReply reply)) := by
  rw [fetchRule, run_attempt_bind, ProxmoxClient.run_send_of_sendable hsendable]
  refine congrArg (perform _) (funext fun ticket => ?_)
  refine congrArg (perform _) (funext fun reply => ?_)
  change (liftM (readRule rule (ProxmoxClient.readReply reply)) : ClientM (Option Json)).run = _
  cases readRule rule (ProxmoxClient.readReply reply) <;> rfl

private theorem fetches_iff {client : ProxmoxClient} {rule : String}
    {reply : Except HttpError HttpResponse} {outcome : Except ProxmoxError (Option Json)}
    (hsendable : client.Sendable (fetchRuleRequest rule)) :
    Fetches client rule reply outcome ↔
      outcome = readRule rule (ProxmoxClient.readReply reply) := by
  rw [Fetches, run_fetchRule hsendable]
  constructor
  · rintro ⟨ticket, events, hrun, hmem⟩
    cases hrun with
    | step _ _ asked hrun =>
      cases hrun with
      | step _ _ answer hrun =>
        cases hrun
        rcases List.mem_cons.mp hmem with heq | hmem
        · cases heq
        · cases List.mem_singleton.mp hmem
          rfl
  · rintro rfl
    exact ⟨0, _, .step _ _ (0 : ℕ) (.step _ _ reply (.refl _)), by simp⟩

/-! ### The wording -/

/-- Proxmox's wording for a missing rule. -/
def noSuchRule (rule : String) : String := s!"no such HA rule '{rule}'"

/-- The detail of an error answer as it arrives, before it is redacted and cut. -/
def arrivedDetail (response : HttpResponse) : String :=
  match response.json with
  | .error _ => response.text
  | .ok value => match (value.get "errors").map Externals.redactJson with
    | some (.object members) =>
      "; ".intercalate <| (members.map fun member => match member.2 with
        | .string reason => s!"{member.1}: {reason}"
        | reason => s!"{member.1}: {Externals.encodeJson reason}").insertionSort (· ≤ ·)
    | _ => response.text

/-- The detail of a body that is no JSON is its text. -/
private theorem arrivedDetail_text (status : UInt16) (text error : String) :
    arrivedDetail ⟨status, text, .error error⟩ = text := rfl

/-- The body of a refusal that gives the reason for one field. -/
def errorsOf (field reason : String) : Json :=
  .object [("data", .null), ("errors", .object [(field, .string reason)])]

/-- The detail of a refusal for one field has the name of the field in front of the reason. -/
private theorem arrivedDetail_errorsOf (hredact : ∀ value, Externals.redactJson value = value)
    (status : UInt16) (text field reason : String) :
    arrivedDetail ⟨status, text, .ok (errorsOf field reason)⟩ = s!"{field}: {reason}" := by
  have herrors : (errorsOf field reason).get "errors" = some (.object [(field, .string reason)]) :=
    rfl
  simp only [arrivedDetail, herrors, Option.map_some, hredact]
  exact String.intercalate_singleton

private theorem extractDetail_eq (hredact : ∀ text, Externals.redactText text = text)
    (response : HttpResponse) : extractDetail response = sanitise (arrivedDetail response) := by
  rw [← hredact (arrivedDetail response)]
  rfl

/-- An answer carries the wording for a rule. -/
def CarriesWording (rule : String) (response : HttpResponse) : Prop :=
  contains (toAsciiLowercase (withoutControls (arrivedDetail response)))
    (toAsciiLowercase (noSuchRule rule))

omit [Externals] in
private theorem toList_noSuchRule (rule : String) :
    (noSuchRule rule).toList = "no such HA rule '".toList ++ (rule ++ "'").toList := by
  have hparts : noSuchRule rule = "no such HA rule '" ++ (rule ++ "'") :=
    String.append_assoc
  rw [hparts, String.toList_append]

omit [Externals] in
/-- What the client looks for is the wording in lower case. -/
private theorem toAsciiLowercase_noSuchRule (rule : String) :
    toAsciiLowercase (noSuchRule rule) = s!"no such ha rule '{toAsciiLowercase rule}'" := by
  have hlead : "no such HA rule '".toList.map Char.toLower = "no such ha rule '".toList := by decide
  have hquote : "'".toList.map Char.toLower = "'".toList := by decide
  have hparts : s!"no such ha rule '{toAsciiLowercase rule}'" =
      "no such ha rule '" ++ (toAsciiLowercase rule ++ "'") := String.append_assoc
  rw [hparts, ← String.toList_inj, toList_toAsciiLowercase, toList_noSuchRule, List.map_append,
    hlead, String.toList_append, List.map_append, hquote, String.toList_append,
    String.toList_append, toList_toAsciiLowercase]

/-! ### What is read as absence -/

/-- An answer is read as absence when its status is 404, or when it is 500 and the client finds the
wording in what it has kept of the detail. -/
private theorem readRule_readAnswer_iff (hredact : ∀ text, Externals.redactText text = text)
    {rule : String} {response : HttpResponse} :
    readRule rule (ProxmoxClient.readAnswer response) = .ok none ↔
      response.status = 404 ∨ response.status = 500 ∧
        contains (toAsciiLowercase (sanitise (arrivedDetail response)))
          (toAsciiLowercase (noSuchRule rule)) := by
  rw [ProxmoxClient.readAnswer]
  by_cases hlow : 400 ≤ response.status
  · rw [if_pos hlow, fromResponse]
    split_ifs with hdenied
    · have hstatus : response.status ≠ 404 ∧ response.status ≠ 500 := by
        rcases hdenied with h | h <;> rw [h] <;> decide
      simp [readRule, hstatus]
    · rw [readRule, extractDetail_eq hredact, isNoSuchRule, ← toAsciiLowercase_noSuchRule]
      split_ifs with habsent
      · exact iff_of_true rfl habsent
      · exact iff_of_false (by simp) habsent
  · -- Below 400 the answer carries data or is malformed, and neither is absence.
    rw [if_neg hlow]
    have hstatus : response.status ≠ 404 ∧ response.status ≠ 500 :=
      ⟨fun h => hlow (by rw [h]; decide), fun h => hlow (by rw [h]; decide)⟩
    refine iff_of_false ?_ (by simp [hstatus])
    cases response.json with
    | error error => simp [readRule]
    | ok value =>
      cases hdata : value.get "data" <;> simp [readRule, hdata]

/-- What the client keeps, behind a lead and the first words of the wording, of the message that
names an id: the id and its quote without control characters, as far as they fit, in lower case. -/
def keptId (lead id : String) : String :=
  toAsciiLowercase (String.ofList
    (takeBytes (maxDetailBytes - (withoutControls lead ++ "no such HA rule '").utf8ByteSize)
      (withoutControls (id ++ "'")).toList))

omit [Externals] in
private theorem toList_keptId (lead id : String) : (keptId lead id).toList =
    (takeBytes (495 - (withoutControls lead).utf8ByteSize)
      (withoutControls (id ++ "'")).toList).map Char.toLower := by
  have hwords : "no such HA rule '".utf8ByteSize = 17 := by decide
  have hroom : maxDetailBytes - (withoutControls lead ++ "no such HA rule '").utf8ByteSize =
      495 - (withoutControls lead).utf8ByteSize := by
    rw [String.utf8ByteSize_append, hwords, maxDetailBytes]
    omega
  rw [keptId, toList_toAsciiLowercase, String.toList_ofList, hroom]

omit [Externals] in
/-- A message behind a lead, without its control characters. -/
private theorem toList_withoutControls_message (lead named : String) :
    (withoutControls (lead ++ noSuchRule named)).toList =
      ((withoutControls lead).toList ++ "no such HA rule ".toList) ++
        '\'' :: (withoutControls (named ++ "'")).toList := by
  have hwords : "no such HA rule '".toList.filter (fun c => !isControl c) =
      "no such HA rule ".toList ++ ['\''] := by decide
  have hstrip (text : String) : (withoutControls text).toList =
      text.toList.filter fun c => !isControl c := String.toList_ofList
  rw [hstrip, hstrip, hstrip, String.toList_append, toList_noSuchRule, List.filter_append,
    List.filter_append, hwords]
  simp only [List.append_assoc, List.singleton_append]

omit [Externals] in
private theorem utf8Len_lead (lead : String) :
    utf8Len ((withoutControls lead).toList ++ "no such HA rule ".toList) =
      (withoutControls lead).utf8ByteSize + 16 := by
  have hwords : utf8Len "no such HA rule ".toList = 16 := by decide
  rw [String.utf8Len_append, String.utf8Len_toList, hwords]

omit [Externals] in
/-- A lead without a quote, and the words up to the first quote, have none in lower case either. -/
private theorem quote_notMem_lead {lead : String} (hlead : '\'' ∉ lead.toList) :
    '\'' ∉ ((withoutControls lead).toList ++ "no such HA rule ".toList).map Char.toLower := by
  intro hmem
  obtain ⟨c, hc, hlower⟩ := List.mem_map.mp hmem
  obtain rfl := eq_of_toLower_eq hlower (by decide)
  rcases List.mem_append.mp hc with hc | hc
  · rw [withoutControls, String.toList_ofList] at hc
    exact hlead (List.mem_of_mem_filter hc)
  · exact absurd hc (by decide)

omit [Externals] in
/-- A lead that fits is kept as a whole. -/
private theorem toList_kept {lead : String} (hfits : (withoutControls lead).utf8ByteSize ≤ 495)
    (named : String) : (toAsciiLowercase (sanitise (lead ++ noSuchRule named))).toList =
      ((withoutControls lead).toList ++ "no such HA rule ".toList).map Char.toLower ++
        '\'' :: (keptId lead named).toList := by
  have hsplit : maxDetailBytes - utf8Len ((withoutControls lead).toList ++
      "no such HA rule ".toList) = 495 - (withoutControls lead).utf8ByteSize + 1 := by
    rw [utf8Len_lead, maxDetailBytes]
    omega
  have hlead : utf8Len ((withoutControls lead).toList ++ "no such HA rule ".toList) ≤
      maxDetailBytes := by
    rw [utf8Len_lead, maxDetailBytes]
    omega
  have hquote : '\''.utf8Size = 1 := by decide
  rw [toList_toAsciiLowercase, toList_sanitise, toList_withoutControls_message,
    takeBytes_append hlead, hsplit, takeBytes, if_pos (by omega), hquote, Nat.add_sub_cancel,
    List.map_append, List.map_cons, toList_keptId]
  rfl

omit [Externals] in
/-- Behind a lead that does not fit, the words are not kept up to their quote. -/
private theorem quote_notMem_kept {lead : String} (hlead : '\'' ∉ lead.toList)
    (hlong : 495 < (withoutControls lead).utf8ByteSize) (named : String) :
    '\'' ∉ (toAsciiLowercase (sanitise (lead ++ noSuchRule named))).toList := by
  have hkept := @takeBytes_isPrefix maxDetailBytes
    (withoutControls (lead ++ noSuchRule named)).toList
  have hbytes := @utf8Len_takeBytes_le maxDetailBytes
    (withoutControls (lead ++ noSuchRule named)).toList
  rw [toList_withoutControls_message] at hkept hbytes
  rw [toList_toAsciiLowercase, toList_sanitise, toList_withoutControls_message]
  have hfront := quote_notMem_lead hlead
  have hlen := utf8Len_lead lead
  rw [maxDetailBytes] at hbytes
  rcases List.prefix_or_prefix_of_prefix hkept (List.prefix_append _ _) with hwithin | hbeyond
  · exact fun hmem => hfront ((hwithin.map Char.toLower).subset hmem)
  · -- the words end where nothing more fits
    rwa [← Utf8.eq_of_prefix_of_utf8Len_le hbeyond (by rw [maxDetailBytes]; omega)]

omit [Externals] in
/-- Behind a lead that does not fit, nothing of the id is kept. -/
private theorem keptId_of_long {lead : String} (hlong : 495 < (withoutControls lead).utf8ByteSize)
    (named : String) : (keptId lead named).toList = [] := by
  have hbytes := @utf8Len_takeBytes_le (495 - (withoutControls lead).utf8ByteSize)
    (withoutControls (named ++ "'")).toList
  have hnone : takeBytes (495 - (withoutControls lead).utf8ByteSize)
      (withoutControls (named ++ "'")).toList = [] := String.utf8Len_eq_zero.mp (by omega)
  rw [toList_keptId, hnone, List.map_nil]

omit [Externals] in
private theorem toList_toAsciiLowercase_noSuchRule (rule : String) :
    (toAsciiLowercase (noSuchRule rule)).toList =
      "no such ha rule ".toList ++ '\'' :: (toAsciiLowercase (rule ++ "'")).toList := by
  have hlower : "no such HA rule '".toList.map Char.toLower =
      "no such ha rule ".toList ++ ['\''] := by decide
  rw [toList_toAsciiLowercase, toList_noSuchRule, List.map_append, hlower,
    toList_toAsciiLowercase, List.append_assoc, List.singleton_append]

omit [Externals] in
/-- The client finds the wording for `rule` in the message for `named` in one of two places: right
at its start, or within the id that the message names. -/
private theorem contains_noSuchRule_iff {lead named rule : String} (hlead : '\'' ∉ lead.toList) :
    contains (toAsciiLowercase (sanitise (lead ++ noSuchRule named)))
        (toAsciiLowercase (noSuchRule rule)) ↔
      startsWith (keptId lead named) (toAsciiLowercase (rule ++ "'")) ∨
        contains (keptId lead named) (toAsciiLowercase (noSuchRule rule)) := by
  rw [contains_iff, contains_iff, startsWith_iff]
  rcases le_or_gt (withoutControls lead).utf8ByteSize 495 with hfits | hlong
  · have hlower : "no such HA rule ".toList.map Char.toLower = "no such ha rule ".toList := by
      decide
    have hfront := quote_notMem_lead hlead
    rw [List.map_append, hlower, List.mem_append, not_or] at hfront
    have hstart (id : List Char) : "no such ha rule ".toList ++ '\'' :: id =
        'n' :: ("o such ha rule '".toList ++ id) := rfl
    have hfirst : 'n' ∉ "o such ha rule '".toList := by decide
    rw [toList_kept hfits, toList_toAsciiLowercase_noSuchRule, List.map_append, hlower,
      List.append_assoc, append_cons_isInfix_append_iff hfront.1 hfront.2, hstart, hstart]
    exact append_isInfix_append_iff hfirst
  · have hnone : ¬ (toAsciiLowercase (noSuchRule rule)).toList <:+:
        (toAsciiLowercase (sanitise (lead ++ noSuchRule named))).toList := by
      intro hfound
      refine quote_notMem_kept hlead hlong named (hfound.subset ?_)
      rw [toList_toAsciiLowercase_noSuchRule]
      exact List.mem_append_right _ List.mem_cons_self
    refine iff_of_false hnone ?_
    rw [keptId_of_long hlong, List.prefix_nil, List.infix_nil]
    rw [toList_toAsciiLowercase_noSuchRule, toList_toAsciiLowercase, String.toList_append]
    simp

omit [Externals] in
private theorem utf8Len_quoted (id : String) :
    utf8Len (id ++ "'").toList = id.utf8ByteSize + 1 := by
  rw [String.utf8Len_toList, String.utf8ByteSize_append]
  rfl

omit [Externals] in
/-- An id without control characters that fits is kept as a whole. -/
private theorem keptId_eq {lead id : String} (hcontrol : ∀ c ∈ id.toList, isControl c = false)
    (hfits : (withoutControls lead).utf8ByteSize + id.utf8ByteSize ≤ 494) :
    keptId lead id = toAsciiLowercase (id ++ "'") := by
  have hquote : isControl '\'' = false := by decide
  have hclean : ∀ c ∈ (id ++ "'").toList, isControl c = false := by
    intro c hc
    rw [String.toList_append, List.mem_append] at hc
    rcases hc with hc | hc
    · exact hcontrol c hc
    · obtain rfl : c = '\'' := List.mem_singleton.mp hc
      exact hquote
  have hbytes := utf8Len_quoted id
  rw [← String.toList_inj, toList_keptId, toList_toAsciiLowercase, withoutControls_eq_self hclean,
    takeBytes_eq_self (by omega)]

omit [Externals] in
/-- The message for the rule itself is recognised when the client keeps all of it. -/
private theorem contains_noSuchRule_self_iff {lead rule : String} (hlead : '\'' ∉ lead.toList) :
    contains (toAsciiLowercase (sanitise (lead ++ noSuchRule rule)))
        (toAsciiLowercase (noSuchRule rule)) ↔
      (∀ c ∈ rule.toList, isControl c = false) ∧
        (withoutControls lead).utf8ByteSize + rule.utf8ByteSize ≤ 494 := by
  rw [contains_noSuchRule_iff hlead]
  obtain ⟨room, hroom⟩ : ∃ room, room = 495 - (withoutControls lead).utf8ByteSize := ⟨_, rfl⟩
  constructor
  · intro hfound
    -- what is found is no longer than what it is found in, so nothing was cut
    have hlong : (rule ++ "'").toList.length ≤
        (takeBytes room (withoutControls (rule ++ "'")).toList).length := by
      rcases hfound with hstart | hwithin
      · have hlen := (startsWith_iff.mp hstart).length_le
        rwa [toList_toAsciiLowercase, toList_keptId, List.length_map, List.length_map,
          ← hroom] at hlen
      · have hlen := (contains_iff.mp hwithin).length_le
        rw [toList_toAsciiLowercase, toList_keptId, List.length_map, List.length_map, ← hroom,
          toList_noSuchRule, List.length_append] at hlen
        omega
    have hstrip : (withoutControls (rule ++ "'")).toList =
        (rule ++ "'").toList.filter fun c => !isControl c := String.toList_ofList
    have htaken := (@takeBytes_isPrefix room (withoutControls (rule ++ "'")).toList).length_le
    have hfiltered := List.length_filter_le (fun c => !isControl c) (rule ++ "'").toList
    rw [← hstrip] at hfiltered
    obtain ⟨-, hfits⟩ := @utf8Len_le_of_length_takeBytes room (withoutControls (rule ++ "'")).toList
      (by omega)
    have hclean : ∀ c ∈ (rule ++ "'").toList, isControl c = false := by
      have hall := List.length_filter_eq_length_iff.mp (hstrip ▸ (by omega :
        (withoutControls (rule ++ "'")).toList.length = (rule ++ "'").toList.length))
      exact fun c hc => by simpa using hall c hc
    rw [withoutControls_eq_self hclean, utf8Len_quoted] at hfits
    refine ⟨fun c hc => hclean c ?_, by omega⟩
    rw [String.toList_append]
    exact List.mem_append_left _ hc
  · rintro ⟨hcontrol, hfits⟩
    rw [keptId_eq hcontrol hfits]
    exact .inl (startsWith_iff.mpr List.prefix_rfl)

/-! ### Telling two ids apart -/

/-- Reading a rule **tells** it **apart** from the rule an answer names behind a lead. -/
structure TellsApart (client : ProxmoxClient) (lead named rule : String) : Prop where
  /-- An answer 500 with the wording for `named` is the absence of `rule` when they are equal. -/
  absent_iff : ∀ response outcome, response.status = 500 →
    arrivedDetail response = lead ++ noSuchRule named →
    Fetches client rule (.ok response) outcome → (outcome = .ok none ↔ named = rule)
  /-- Apart from 404, nothing is its absence but an answer 500 that carries the wording for it. -/
  only : ∀ reply, Fetches client rule reply (.ok none) → ∃ response, reply = .ok response ∧
    (response.status = 404 ∨ response.status = 500 ∧ CarriesWording rule response)

/-- When the two are told apart: the id itself arrives as a whole, and what is kept of another id
neither starts with this one and a quote nor has the wording for this one in it. -/
structure ToldApart (lead named rule : String) : Prop where
  same : named = rule → (∀ c ∈ rule.toList, isControl c = false) ∧
    (withoutControls lead).utf8ByteSize + rule.utf8ByteSize ≤ 494
  other : named ≠ rule → ¬ startsWith (keptId lead named) (toAsciiLowercase (rule ++ "'")) ∧
    ¬ contains (keptId lead named) (toAsciiLowercase (noSuchRule rule))

private theorem readRule_eq_ok_none {rule : String} {reply : Except HttpError HttpResponse}
    (habsent : readRule rule (ProxmoxClient.readReply reply) = .ok none) :
    ∃ response, reply = .ok response ∧
      readRule rule (ProxmoxClient.readAnswer response) = .ok none := by
  cases reply with
  | error error => simp [ProxmoxClient.readReply, Except.mapError, Except.bind, readRule] at habsent
  | ok response => exact ⟨response, rfl, habsent⟩

omit [Externals] in
/-- What is found in the kept detail stands in the detail that arrived. -/
private theorem contains_of_contains_sanitise {text pat : String}
    (hfound : contains (toAsciiLowercase (sanitise text)) pat) :
    contains (toAsciiLowercase (withoutControls text)) pat := by
  rw [contains_iff, toList_toAsciiLowercase, toList_sanitise] at hfound
  rw [contains_iff, toList_toAsciiLowercase]
  exact hfound.trans (takeBytes_isPrefix.map Char.toLower).isInfix

/-! ### Usual ids -/

omit [Externals] in
/-- Lower case makes no quote. -/
private theorem quote_notMem_toAsciiLowercase {text : String} (hquote : '\'' ∉ text.toList) :
    '\'' ∉ (toAsciiLowercase text).toList := by
  rw [toList_toAsciiLowercase]
  intro hmem
  obtain ⟨c, hc, hlower⟩ := List.mem_map.mp hmem
  obtain rfl := eq_of_toLower_eq hlower (by decide)
  exact hquote hc

omit [Externals] in
/-- Of ids that are kept as a whole and have no quote in them, two are told apart unless they differ
in the case of letters alone. -/
private theorem toldApart_iff_of_plain {lead named rule : String} (hquote : '\'' ∉ named.toList)
    (hquote' : '\'' ∉ rule.toList) (hcontrol : ∀ c ∈ named.toList, isControl c = false)
    (hfits : (withoutControls lead).utf8ByteSize + named.utf8ByteSize ≤ 494) :
    ToldApart lead named rule ↔
      (toAsciiLowercase named = toAsciiLowercase rule → named = rule) := by
  have hquoted (id : String) : (toAsciiLowercase (id ++ "'")).toList =
      (toAsciiLowercase id).toList ++ ['\''] := by
    rw [toList_toAsciiLowercase, String.toList_append, List.map_append, toList_toAsciiLowercase]
    rfl
  have hn := quote_notMem_toAsciiLowercase hquote
  have hr := quote_notMem_toAsciiLowercase hquote'
  have hkept := keptId_eq hcontrol hfits
  have hstart : startsWith (keptId lead named) (toAsciiLowercase (rule ++ "'")) ↔
      toAsciiLowercase named = toAsciiLowercase rule := by
    rw [startsWith_iff, hkept, hquoted, hquoted]
    constructor
    · rintro ⟨rest, hrest⟩
      rw [List.append_assoc, List.singleton_append] at hrest
      have hcut := splitListOnce_eq_some_iff.mpr ⟨hr, hrest.symm⟩
      rw [splitListOnce_eq_some_iff.mpr ⟨hn, rfl⟩] at hcut
      exact String.toList_inj.mp (Prod.mk.inj (Option.some.inj hcut)).1
    · intro hsame
      rw [hsame]
  -- The wording has two quotes, what is kept of the id only the one behind it.
  have hwithin : ¬ contains (keptId lead named) (toAsciiLowercase (noSuchRule rule)) := by
    intro hfound
    have hcount := (contains_iff.mp hfound).sublist.count_le '\''
    rw [hkept, hquoted, List.count_append, List.count_eq_zero_of_not_mem hn] at hcount
    rw [toList_toAsciiLowercase, toList_noSuchRule, List.map_append, List.count_append,
      ← toList_toAsciiLowercase (rule ++ "'"), hquoted, List.count_append] at hcount
    have hlead : ("no such HA rule '".toList.map Char.toLower).count '\'' = 1 := by decide
    have hlast : ['\''].count '\'' = 1 := by decide
    omega
  constructor
  · intro htold hlower
    by_contra hother
    exact (htold.other hother).1 (hstart.mpr hlower)
  · intro hinj
    refine ⟨fun hsame => hsame ▸ ⟨hcontrol, hfits⟩, fun hother => ⟨?_, hwithin⟩⟩
    exact fun hfound => hother (hinj (hstart.mp hfound))

/-- **Which answers name the rule.** A reading tells a rule apart from the one an answer names
behind a lead exactly when `ToldApart` holds of the lead and the two ids. -/
theorem fetchRule_tellsApart_iff (hredact : ∀ text, Externals.redactText text = text)
    {client : ProxmoxClient} {lead named rule : String} (hlead : '\'' ∉ lead.toList)
    (hsendable : client.Sendable (fetchRuleRequest rule)) :
    TellsApart client lead named rule ↔ ToldApart lead named rule := by
  have habsent (response : HttpResponse) (hstatus : response.status = 500)
      (hdetail : arrivedDetail response = lead ++ noSuchRule named) :
      readRule rule (ProxmoxClient.readAnswer response) = .ok none ↔
        contains (toAsciiLowercase (sanitise (lead ++ noSuchRule named)))
          (toAsciiLowercase (noSuchRule rule)) := by
    rw [readRule_readAnswer_iff hredact, hdetail, hstatus]
    simp
  constructor
  · intro htells
    -- an answer that names the rule can always come
    obtain ⟨response, hstatus, hdetail⟩ : ∃ response : HttpResponse,
        response.status = 500 ∧ arrivedDetail response = lead ++ noSuchRule named :=
      ⟨⟨500, lead ++ noSuchRule named, .error ""⟩, rfl, arrivedDetail_text _ _ _⟩
    have hnamed : contains (toAsciiLowercase (sanitise (lead ++ noSuchRule named)))
        (toAsciiLowercase (noSuchRule rule)) ↔ named = rule := by
      rw [← habsent response hstatus hdetail]
      exact htells.absent_iff _ _ hstatus hdetail ((fetches_iff hsendable).mpr rfl)
    refine ⟨fun hsame => ?_, fun hother => ?_⟩
    · subst hsame
      exact (contains_noSuchRule_self_iff hlead).mp (hnamed.mpr rfl)
    · rw [contains_noSuchRule_iff hlead] at hnamed
      exact not_or.mp (mt hnamed.mp hother)
  · intro htold
    refine ⟨fun response outcome hstatus hdetail hfetches => ?_, fun reply hfetches => ?_⟩
    · rw [(fetches_iff hsendable).mp hfetches]
      refine (habsent response hstatus hdetail).trans ?_
      by_cases hsame : named = rule
      · subst hsame
        exact iff_of_true ((contains_noSuchRule_self_iff hlead).mpr (htold.same rfl)) rfl
      · rw [contains_noSuchRule_iff hlead]
        exact iff_of_false (not_or.mpr (htold.other hsame)) hsame
    · obtain ⟨response, rfl, hread⟩ :=
        readRule_eq_ok_none ((fetches_iff hsendable).mp hfetches).symm
      refine ⟨response, rfl, ((readRule_readAnswer_iff hredact).mp hread).imp_right ?_⟩
      exact And.imp_right contains_of_contains_sanitise

omit [Externals] in
/-- The message for another rule is not read as the absence of this one, although the one id starts
with the other. -/
theorem fetchRule_tellsApart_iff_keep :
    let _ : Externals := Externals.guarded
    TellsApart ⟨"pve", ⟨"https://pve:8006", [], []⟩⟩ "rule: " "keep-web" "keep" := by
  let _ : Externals := Externals.guarded
  have hall : "keep-web".toList.all fun c => !isControl c := by decide
  have hcontrol : ∀ c ∈ "keep-web".toList, isControl c = false :=
    fun c hc => by simpa using List.all_eq_true.mp hall c hc
  have htold : ToldApart "rule: " "keep-web" "keep" :=
    (toldApart_iff_of_plain (by decide) (by decide) hcontrol (by decide)).mpr
      fun hsame => absurd hsame (by decide)
  exact (fetchRule_tellsApart_iff (fun _ => rfl) (by decide) ⟨_, rfl, rfl⟩).mpr htold

omit [Externals] in
/-- Two ids that differ in the case of a letter are both accepted, and the message that the one is
missing is read as the absence of the other, also when it is the reason for a field. -/
theorem fetchRule_foldsCase :
    let _ : Externals := Externals.guarded
    let client : ProxmoxClient := ⟨"pve", ⟨"https://pve:8006", [], []⟩⟩
    (∀ text, Externals.redactText text = text) ∧ client.Sendable (fetchRuleRequest "keep") ∧
      Guests.validatePathSegment "Keep" "rule" = .ok () ∧
      Guests.validatePathSegment "keep" "rule" = .ok () ∧
      ¬ TellsApart client "" "Keep" "keep" ∧ ¬ TellsApart client "rule: " "Keep" "keep" := by
  let _ : Externals := Externals.guarded
  have hsendable : (⟨"pve", ⟨"https://pve:8006", [], []⟩⟩ : ProxmoxClient).Sendable
      (fetchRuleRequest "keep") := ⟨_, rfl, rfl⟩
  have hfails {lead : String} {response : HttpResponse} (hstatus : response.status = 500)
      (hdetail : arrivedDetail response = lead ++ noSuchRule "Keep") (hlead : '\'' ∉ lead.toList)
      (hstart : startsWith (keptId lead "Keep") (toAsciiLowercase ("keep" ++ "'"))) :
      ¬ TellsApart ⟨"pve", ⟨"https://pve:8006", [], []⟩⟩ lead "Keep" "keep" := by
    intro htells
    have hfound : contains (toAsciiLowercase (sanitise (arrivedDetail response)))
        (toAsciiLowercase (noSuchRule "keep")) := by
      rw [hdetail, contains_noSuchRule_iff hlead]
      exact .inl hstart
    have hread : readRule "keep" (ProxmoxClient.readAnswer response) = .ok none :=
      (readRule_readAnswer_iff fun _ => rfl).mpr (.inr ⟨hstatus, hfound⟩)
    have hsame := htells.absent_iff response (.ok none) hstatus hdetail
      ((fetches_iff hsendable).mpr hread.symm)
    exact absurd (hsame.mp rfl) (by decide)
  have htext : arrivedDetail ⟨500, noSuchRule "Keep", .error ""⟩ = "" ++ noSuchRule "Keep" := by
    rw [arrivedDetail_text, String.empty_append]
  have herrors : arrivedDetail ⟨500, "", .ok (errorsOf "rule" (noSuchRule "Keep"))⟩ =
      "rule: " ++ noSuchRule "Keep" := arrivedDetail_errorsOf (fun _ => rfl) _ _ _ _
  exact ⟨fun _ => rfl, hsendable, rfl, rfl, hfails rfl htext (by decide) (by decide),
    hfails rfl herrors (by decide) (by decide)⟩

end ProxmoxMcp
