import ScenarioStubs.Proofs.Http.ScenarioState
import ScenarioStubs.Proofs.Http.StubStatus

/-!
# The reply of a stub

The headers of a reply are a list in which names may repeat, up to the case of letters (`Reply.values`). Writing a
header in lower case loses none of them (`sameIgnoringCase_lowerAscii`), so the reply of a template has under each name
the values that the template gives it and that may be sent (`values_renderTemplate`). A session is handed out in one
more value (`values_renderEvent`), if it was minted for the request (`Engine.isEphemeral_resolveSession_iff`). Together:
`stub_rendered`.
-/

namespace ScenarioStubs

/-! ## Lower case -/

namespace Text

theorem toLower_toLower (c : Char) : c.toLower.toLower = c.toLower := by
  unfold Char.toLower
  by_cases h : 'A'.val ≤ c.val ∧ c.val ≤ 'Z'.val
  · -- A lowered letter lies above the letters that are lowered.
    have habove : ¬c.val + ('a'.val - 'A'.val) ≤ 'Z'.val := by
      obtain ⟨hlow, hhigh⟩ := h
      rw [UInt32.le_iff_toNat_le] at hlow hhigh ⊢
      rw [UInt32.toNat_add]
      have hlow : 65 ≤ c.val.toNat := hlow
      have hhigh : c.val.toNat ≤ 90 := hhigh
      show ¬(c.val.toNat + 32) % 4294967296 ≤ 90
      omega
    rw [dif_pos h, dif_neg fun h' => habove h'.2]
  · rw [dif_neg h, dif_neg h]

theorem lowerAscii_lowerAscii (s : String) : lowerAscii (lowerAscii s) = lowerAscii s := by
  unfold lowerAscii
  rw [String.map_map]
  exact congrArg (String.map · s) (funext toLower_toLower)

theorem sameIgnoringCase_lowerAscii (s t : String) : sameIgnoringCase (lowerAscii s) t = sameIgnoringCase s t := by
  unfold sameIgnoringCase
  rw [lowerAscii_lowerAscii]

end Text

/-! ## Who gets a session -/

/-- A session is minted for a request exactly if sessions are told apart and the request presents none. -/
theorem Engine.isEphemeral_resolveSession_iff {e : Engine} {r : Request} (fresh : SessionId) :
    (e.resolveSession fresh r).isEphemeral = true ↔ e.config.sessions.Anonymous r := by
  constructor
  · intro h
    refine Classical.byContradiction fun hpresents => ?_
    cases (resolveSession_of_not_anonymous hpresents fresh).2.symm.trans h
  · intro h
    rw [resolveSession_of_anonymous h]
    rfl

/-- The values that a template gives a header, up to the case of its name: those of the names that can be sent with
their values, ascending by name. -/
def ResponseTemplate.sendable (t : ResponseTemplate) (name : String) : List String :=
  (t.headers.toList.filter fun h =>
    Text.sameIgnoringCase h.1 name && (Http.isHeaderName h.1 && Http.isHeaderValue h.2)).map (·.2)

namespace Http

/-- The values that a reply has under a name, up to the case of letters. -/
def Reply.values (r : Reply) (name : String) : List String :=
  (r.headers.filter fun h => Text.sameIgnoringCase h.1 name).map (·.2)

variable {name : String}

theorem values_withCookie (r : Reply) (cookie : String) : (r.withCookie cookie).values name =
    r.values name ++ if Text.sameIgnoringCase "set-cookie" name then [cookie] else [] := by
  unfold Reply.withCookie Reply.values
  rw [List.filter_append, List.map_append]
  cases h : Text.sameIgnoringCase "set-cookie" name <;> simp [h]

/-- No header of a template is lost that may be sent, and none is put together with another. -/
theorem values_renderTemplate (t : ResponseTemplate) : (renderTemplate t).values name = t.sendable name := by
  unfold renderTemplate Reply.values ResponseTemplate.sendable
  rw [List.filter_map, List.map_map, List.filter_filter]
  simp only [Function.comp_def, Text.sameIgnoringCase_lowerAscii]

theorem values_text (status : UInt16) (body : String) : (Reply.text status body).values name =
    if Text.sameIgnoringCase "content-type" name then ["text/plain; charset=utf-8"] else [] := by
  unfold Reply.text Reply.values
  cases h : Text.sameIgnoringCase "content-type" name <;> simp [h]

/-! ## Replies to stub requests -/

/-- What is sent under a name beside cookies that hand out sessions. -/
def ownValues (stub : Option ServedStub) (name : String) : List String :=
  match stub with
  | some stub => stub.response.sendable name
  | none => if Text.sameIgnoringCase "content-type" name then ["text/plain; charset=utf-8"] else []

/-- A reply shows a stub, or that there is none, and hands out sessions by some cookies after that. -/
structure Reply.Shows (reply : Reply) (stub : Option ServedStub) (cookies : List String) : Prop where
  status : reply.status = stub.elim 404 (·.response.status)
  body : reply.body = stub.elim noMatchBody (·.response.bodyText)
  values : ∀ name, reply.values name =
    ownValues stub name ++ if Text.sameIgnoringCase "set-cookie" name then cookies else []

variable {stub : Option ServedStub}

theorem shows_ofStub (hstatus : ∀ served, stub = some served →
    sendableStatus served.response.status = served.response.status) : (Reply.ofStub stub).Shows stub [] where
  status := by
    cases stub with
    | none => rfl
    | some served => exact hstatus served rfl
  body := by cases stub <;> rfl
  values name := by
    rw [ite_self, List.append_nil]
    cases stub with
    | none => exact values_text 404 noMatchBody
    | some served => exact values_renderTemplate served.response

theorem Reply.Shows.withCookie {reply : Reply} (h : reply.Shows stub []) (cookie : String) :
    (reply.withCookie cookie).Shows stub [cookie] where
  status := h.status
  body := h.body
  values name := by rw [values_withCookie, h.values, ite_self, List.append_nil]

/-- **Rendering of stub answers.** Take any run of a new engine that is given mappings only that there was a way to
make, and a message that names no administrative operation. If a stub is chosen for it, that is the stub of a registered
mapping, whose headers ascend by name. The reply shows the stub, or that there is none: its status and body, and under
each name, up to the case of letters, the values of the stub's headers with that name that can be sent, in order. After
these stands one more `Set-Cookie` with the session exactly if sessions are told apart, the message presents none, and
the cookie can be sent. -/
theorem stub_rendered (c : EngineConfig) (calls : List Call) (hmade : ∀ call ∈ calls, call.operation.GivesMade)
    (now : Instant) (fresh : Fresh) (msg : Message) (hstub : AdminRoute.ofMessage? msg = none) :
    let e := (Engine.new c).after calls
    let event := (e.serve now fresh.session msg.toRequest).1
    let reply := (answer e now fresh msg).1
    let cookie := sessionCookie c.sessions.cookieName event.session.id.token
    let handsOut := c.sessions.Anonymous msg.toRequest ∧ isHeaderValue cookie = true
    (∀ served, event.stub = some served → (∃ m ∈ e.registry.mappings, served = ⟨m.id, m.response⟩) ∧
        served.response.headers.keys.Pairwise fun j k => compare j k = .lt) ∧
      (handsOut → reply.Shows event.stub [cookie]) ∧ (¬handsOut → reply.Shows event.stub []) := by
  intro e event reply cookie handsOut
  have hconfig : e.config = c := Engine.after_config _ calls
  have hreply : reply = renderEvent event c.sessions.cookieName := by
    rw [← hconfig]
    exact congrArg Prod.fst (answer_of_stub hstub e now fresh)
  have hminted : event.session.isEphemeral = true ↔ c.sessions.Anonymous msg.toRequest := by
    rw [← hconfig]
    exact Engine.isEphemeral_resolveSession_iff fresh.session
  have hshows : (Reply.ofStub event.stub).Shows event.stub [] := by
    refine shows_ofStub fun served hserved => ?_
    obtain ⟨m, hm, rfl⟩ := mem_mappings_of_served hserved
    exact sendableStatus_of_valid (Engine.valid_of_mem_mappings_after hmade hm).status
  refine ⟨fun served hserved => ⟨mem_mappings_of_served hserved, SortedMap.pairwise_keys _⟩, ?_, ?_⟩
  · rintro ⟨hanonymous, hvalue⟩
    rw [hreply, renderEvent_of_minted (hminted.mpr hanonymous) hvalue]
    exact hshows.withCookie cookie
  · intro hnot
    rw [hreply, renderEvent_of_no_cookie]
    · exact hshows
    · rw [← Bool.not_eq_true, Bool.and_eq_true, hminted]
      exact hnot

/-- The stub has two headers that differ in case only and two that cannot be sent; its own cookie comes before the one
that hands out the session. -/
theorem stub_rendered_of_own_cookie :
    let plain : ResponseTemplate := { body := some "b" }
    let own := (plain.withHeader "set-cookie" "u=2").withHeader "Set-Cookie" "u=1"
    let template := (own.withHeader "bad name" "v").withHeader "x" "\n"
    let calls : List Call := [⟨⟨0⟩, .register ⟨⟨1⟩, 5, .always, none, template⟩⟩]
    let fresh : Fresh := ⟨⟨"f", by decide⟩, ⟨4⟩⟩
    let reply := (answer ((Engine.new {}).after calls) ⟨1⟩ fresh { method := "GET", target := ⟨"/x", none⟩ }).1
    reply.status = 200 ∧ reply.body = "b" ∧
      reply.values "SET-COOKIE" = ["u=1", "u=2", "WireMockSessionId=f; Path=/; HttpOnly; SameSite=Lax"] ∧
      reply.values "X" = [] := by
  intro plain own template calls fresh reply
  have hbuild : ({ id := some ⟨1⟩, predicate := some .always, response := template } : MappingDraft).build ⟨9⟩ =
      .ok ⟨⟨1⟩, 5, .always, none, template⟩ := rfl
  have hmade : ∀ call ∈ calls, call.operation.GivesMade := by
    intro call hcall
    rw [List.mem_singleton.mp hcall]
    exact .built hbuild
  have hanonymous : SessionSettings.Anonymous {} (Message.toRequest { method := "GET", target := ⟨"/x", none⟩ }) := by
    refine ⟨rfl, fun token h => ?_, fun token h => ?_⟩
    · cases h
    · cases h
  obtain ⟨-, hhanded, -⟩ := stub_rendered {} calls hmade ⟨1⟩ fresh { method := "GET", target := ⟨"/x", none⟩ } rfl
  have hshows := hhanded ⟨hanonymous, by decide +kernel⟩
  refine ⟨hshows.status.trans ?_, hshows.body.trans ?_, (hshows.values "SET-COOKIE").trans ?_,
    (hshows.values "X").trans ?_⟩
  · decide +kernel
  · decide +kernel
  · simp only [ownValues, ResponseTemplate.sendable, Text.sameIgnoringCase_eq]
    decide +kernel
  · simp only [ownValues, ResponseTemplate.sendable, Text.sameIgnoringCase_eq]
    decide +kernel

end Http

end ScenarioStubs
