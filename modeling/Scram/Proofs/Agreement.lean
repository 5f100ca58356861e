import Scram.Proofs.Client.Steps
import Scram.Proofs.Server.Steps

/-!
# What a shared transcript tells the two ends

Both ends sign their messages with commas between them, and every message has room for attributes
that its reader lets pass. An attacker can therefore move the boundaries: what one end takes for the
attributes of its own message, the other lets pass as extensions of another. Two ends that sign the
same octets then need not agree on the binding or on the salt, though neither skipped a check
(`Shifted.sharedTranscript`, whatever nonce the client has drawn; `shifted_transcript`).

`SharedTranscript.agreement` says what is left: for each of the two agreements there is one way in
which it can fail, and that takes attributes of the one end among the extensions that the other lets
pass. Where the server's first message reaches the client without extensions, the two ends agree.
-/

namespace Scram

/-! ## One row of attributes, read twice -/

section Shift

variable {n n' salt salt' count count' binding binding' : Bytes}

/-- Where the two readings place a server's first message differently, the one that has it later
lets the other's pass. -/
theorem opening_cases {extensions behind rest : List Bytes}
    (same : extensions ++ attrVal 'r' n :: attrVal 's' salt :: attrVal 'i' count :: behind =
      attrVal 'r' n' :: attrVal 's' salt' :: attrVal 'i' count' :: rest) :
    (extensions = [] ∧ n = n' ∧ salt = salt' ∧ count = count' ∧ behind = rest) ∨
    ∃ more, extensions = attrVal 'r' n' :: attrVal 's' salt' :: attrVal 'i' count' :: more ∧
      rest = more ++ attrVal 'r' n :: attrVal 's' salt :: attrVal 'i' count :: behind := by
  -- with one extension or two in front, attributes of different letters would meet
  match extensions with
  | [] =>
    simp only [List.nil_append, List.cons.injEq, attrVal_inj] at same
    obtain ⟨nonces, salts, counts, after⟩ := same
    exact .inl ⟨rfl, nonces, salts, counts, after⟩
  | [_] =>
    simp only [List.cons_append, List.nil_append, List.cons.injEq] at same
    exact absurd same.2.1 (attrVal_ne _ _)
  | [_, _] =>
    simp only [List.cons_append, List.nil_append, List.cons.injEq] at same
    exact absurd same.2.2.1 (attrVal_ne _ _)
  | x :: y :: z :: more =>
    simp only [List.cons_append, List.cons.injEq] at same
    obtain ⟨rfl, rfl, rfl, after⟩ := same
    exact .inr ⟨more, rfl, after.symm⟩

/-- Where the two readings place what a client signs of its final message differently, the one that
has it earlier lets the other's pass. -/
theorem closing_cases {front extensions before : List Bytes}
    (same : front ++ attrVal 'c' binding :: attrVal 'r' n :: extensions =
      before ++ [attrVal 'c' binding', attrVal 'r' n']) :
    (extensions = [] ∧ front = before ∧ binding = binding') ∨
    ∃ more, extensions = more ++ [attrVal 'c' binding', attrVal 'r' n'] ∧
      before = front ++ attrVal 'c' binding :: attrVal 'r' n :: more := by
  -- from the end of the row: with one extension behind, attributes of different letters would meet
  rcases List.eq_nil_or_concat extensions with rfl | ⟨init, last, rfl⟩
  · obtain ⟨fronts, ends⟩ := List.append_inj' same rfl
    exact .inl ⟨rfl, fronts, attrVal_inj.mp (List.cons.inj ends).1⟩
  · rcases List.eq_nil_or_concat init with rfl | ⟨more, previous, rfl⟩
    · have regrouped : (front ++ [attrVal 'c' binding]) ++ [attrVal 'r' n, last] =
          before ++ [attrVal 'c' binding', attrVal 'r' n'] := by simpa using same
      obtain ⟨-, ends⟩ := List.append_inj' regrouped rfl
      exact absurd (List.cons.inj ends).1 (attrVal_ne _ _)
    · have regrouped : (front ++ attrVal 'c' binding :: attrVal 'r' n :: more) ++ [previous, last] =
          before ++ [attrVal 'c' binding', attrVal 'r' n'] := by simpa using same
      obtain ⟨fronts, ends⟩ := List.append_inj' regrouped rfl
      exact .inr ⟨more, by simpa using ends, fronts.symm⟩

/-- **The two readings of one row**: a server's, with extensions of the first message in front and
of the final one behind, and a client's, with extensions of the server's message in the middle. -/
theorem shift_cases {before between behind : List Bytes}
    (same : before ++ attrVal 'r' n :: attrVal 's' salt :: attrVal 'i' count ::
        attrVal 'c' binding :: attrVal 'r' n :: behind =
      attrVal 'r' n' :: attrVal 's' salt' :: attrVal 'i' count' ::
        (between ++ [attrVal 'c' binding', attrVal 'r' n'])) :
    (binding = binding' ∨
      [attrVal 'c' binding', attrVal 'r' n'] <:+ behind ∧ attrVal 'c' binding ∈ between) ∧
    (before = [] ∧ n = n' ∧ salt = salt' ∧ count = count' ∨
      [attrVal 'r' n', attrVal 's' salt', attrVal 'i' count'] <+: before ∧
        attrVal 'r' n ∈ between) := by
  have regrouped : (before ++ [attrVal 'r' n, attrVal 's' salt, attrVal 'i' count]) ++
      attrVal 'c' binding :: attrVal 'r' n :: behind =
      (attrVal 'r' n' :: attrVal 's' salt' :: attrVal 'i' count' :: between) ++
        [attrVal 'c' binding', attrVal 'r' n'] := by simpa using same
  -- the end of the row first; `opening_cases` compares what is left from its beginning
  rcases closing_cases regrouped with ⟨-, fronts, bindings⟩ | ⟨more, rfl, fronts⟩
  · refine ⟨.inl bindings, ?_⟩
    rcases opening_cases fronts with ⟨rfl, nonces, salts, counts, -⟩ | ⟨more, rfl, rfl⟩
    · exact .inl ⟨rfl, nonces, salts, counts⟩
    · exact .inr ⟨⟨more, rfl⟩, by simp⟩
  · have split : before ++ attrVal 'r' n :: attrVal 's' salt :: attrVal 'i' count ::
        attrVal 'c' binding :: attrVal 'r' n :: more =
        attrVal 'r' n' :: attrVal 's' salt' :: attrVal 'i' count' :: between := by
      rw [fronts]
      simp
    rcases opening_cases split with ⟨rfl, nonces, salts, counts, rfl⟩ | ⟨passed, rfl, rfl⟩
    · exact ⟨.inr ⟨⟨more, rfl⟩, by simp⟩, .inl ⟨rfl, nonces, salts, counts⟩⟩
    · exact ⟨.inr ⟨⟨more, rfl⟩, by simp⟩, .inr ⟨⟨passed, rfl⟩, by simp⟩⟩

end Shift

/-! ## The two ends -/

/-- A client that has answered a message of whatever origin, and a server that has begun an exchange
with a message of whatever origin and then finds the binding and the nonce of another as it expects
them, where the octets that both sign are the same. -/
structure SharedTranscript (c : Client) (serverFirst : String) (offered : ServerFirst) (s : Server)
    (opening message : Bytes) (e : Exchange) (final : ClientFinal) : Prop where
  answered : ∃ answer, c.first.1.answer serverFirst = .ok answer
  readOffered : ServerFirst.parse serverFirst = .ok offered
  fresh : s.state = .awaitingFirst
  begun : (s.receive opening).server.state = .awaitingFinal e
  readFinal : ClientFinal.parse message = .ok final
  bound : checkBinding final.binding e.bindingValue = .ok ()
  nonce : final.nonce = utf8 e.nonce
  signed : (e.transcript final.withoutProof).flatten = (transcript (utf8 c.bare) (utf8 serverFirst)
    (utf8 (c.first.1.withoutProof offered.nonce))).flatten

namespace SharedTranscript

variable {c : Client} {serverFirst : String} {offered : ServerFirst} {s : Server}
  {opening message : Bytes} {e : Exchange} {final : ClientFinal}

/-- A transcript is one row of attributes: those of its three parts, one after another. -/
theorem attributes_transcript (first second third : Bytes) :
    attributes (transcript first second third).flatten =
      attributes first ++ (attributes second ++ attributes third) := by
  rw [flatten_transcript, attributes_append, attributes_append]

/-- What a client signs of its final message, by its attributes. -/
theorem attributes_withoutProof (c : Client) {nonce : String} (nonceOk : isNonce (utf8 nonce)) :
    attributes (utf8 (c.first.1.withoutProof nonce)) =
      [attrVal 'c' (Base64.encode c.first.1.binding), attrVal 'r' (utf8 nonce)] := by
  rw [Client.AwaitingFirst.withoutProof, ClientFinal.utf8_withoutProofText]
  exact ClientFinal.attributes_signedOctets (Base64.comma_not_mem_encode _) nonceOk (.inl rfl)

/-- What a client signs of its first message, by its attributes. -/
theorem attributes_client_bare (c : Client) :
    attributes (utf8 c.bare) =
      [attrVal 'n' (utf8 (SaslName.encode c.authcid)), attrVal 'r' (utf8 c.nonce.text)] := by
  have row := ClientFirst.attributes_bareText c.authcid c.nonce.isNonce_text none
  rwa [ClientFirst.extensionsText, String.append_empty] at row

/-- A first message whose bare part begins as a client's own has no mandatory extension, and beyond
the client's own attributes only what it holds for extensions. -/
theorem extensions_of_bare {first : ClientFirst} {rest rest' : List Bytes} (form : first.WellFormed)
    (same : attributes (utf8 first.bare) ++ rest = attributes (utf8 c.bare) ++ rest') :
    (attributes (utf8 first.bare)).drop 2 ++ rest = rest' := by
  rw [ClientFirst.attributes_bare form, attributes_client_bare] at same
  rw [ClientFirst.attributes_bare form]
  cases extension : first.mandatoryExtension with
  | none =>
    simp only [extension, Option.map_none, Option.toList_none, List.nil_append, List.cons_append,
      List.cons.injEq] at same
    exact same.2.2
  | some value =>
    simp only [extension, Option.map_some, Option.toList_some, List.cons_append, List.cons.injEq]
      at same
    exact absurd same.1 (attrVal_ne _ _)

/-- A message is known by the written forms of its nonce, its salt and its count. -/
theorem eq_of_writtenForms {own offered : ServerFirst} {salt count tail : String}
    (form : offered.WellFormed salt count tail) (nonces : utf8 own.nonce = utf8 offered.nonce)
    (salts : utf8 (Base64.text own.salt) = utf8 salt)
    (counts : utf8 own.iterations.text = utf8 count) : own = offered := by
  have readSalt := form.salt
  rw [← salts, Base64.utf8_text, Base64.decode?_encode] at readSalt
  have readCount := form.count
  rw [← utf8_injective counts, IterationCount.ofChars?_text] at readCount
  obtain ⟨nonce, octets, iterations⟩ := own
  cases utf8_injective nonces
  cases readSalt
  cases readCount
  rfl

/-- **What a shared transcript tells the two ends.** They agree on the binding, unless the final
message the server took ends, among its extensions, in all that the client signed of its own, and
the message the client took has the server's binding among its extensions. And they agree on the
salt and the iteration count, unless the first message the server took has, at the head of its
extensions, the three attributes that the client took, and the message the client took has the
server's nonce among its extensions. -/
theorem agreement (h : SharedTranscript c serverFirst offered s opening message e final) :
    (e.bindingValue = c.first.1.binding ∨
      attributes (utf8 (c.first.1.withoutProof offered.nonce)) <:+
        (attributes final.withoutProof).drop 2 ∧
      attrVal 'c' final.binding ∈ (attributes (utf8 serverFirst)).drop 3) ∧
    (ServerFirst.parse e.serverFirst = .ok offered ∨
      (attributes (utf8 serverFirst)).take 3 <+: (attributes (utf8 e.clientFirstBare)).drop 2 ∧
      attrVal 'r' final.nonce ∈ (attributes (utf8 serverFirst)).drop 3) := by
  obtain ⟨first, kind, data, credentials, parsed, -, -, -, -, exchange⟩ :=
    Server.takeFirst_result_eq_ok_iff.mp (Server.takeFirst_of_receive_state h.fresh h.begun)
  obtain ⟨firstForm, -⟩ := ClientFirst.ofOctets_eq_ok_iff.mp parsed
  obtain ⟨extensions, finalForm, withoutProof, -⟩ := ClientFinal.parse_eq_ok_iff.mp h.readFinal
  obtain ⟨salt, count, tail, offeredForm, text⟩ := ServerFirst.parse_eq_ok_iff.mp h.readOffered
  have bare : e.clientFirstBare = first.bare := exchange ▸ rfl
  let own : ServerFirst := ⟨e.nonce, credentials.salt, credentials.iterations⟩
  have reply : e.serverFirst = ServerFirst.text own := by
    subst exchange
    rfl
  have ownNonce : isNonce (utf8 own.nonce) := h.nonce ▸ finalForm.nonce
  have ownRow := ServerFirst.attributes_writtenText (ServerFirst.wellFormed_text ownNonce)
  have offeredRow := ServerFirst.attributes_writtenText offeredForm
  have finalRow := ClientFinal.attributes_signedOctets finalForm.comma_not_mem_binding
    finalForm.nonce finalForm.extensions
  rw [← ServerFirst.text_eq, ← reply] at ownRow
  rw [← text] at offeredRow
  rw [← withoutProof] at finalRow
  -- both transcripts as rows of attributes; they agree on the client's own two, and what follows
  -- is one row that the two ends divide differently
  have rows := congrArg attributes h.signed
  rw [Exchange.transcript, attributes_transcript, attributes_transcript, bare] at rows
  have shifted := extensions_of_bare firstForm rows
  rw [ownRow, finalRow, offeredRow, attributes_withoutProof c offeredForm.nonce, h.nonce] at shifted
  obtain ⟨bindings, openings⟩ := shift_cases shifted
  refine ⟨bindings.imp ?_ ?_, openings.imp ?_ ?_⟩
  · intro same
    have declared := checkBinding_eq_ok_iff.mp h.bound
    rw [same, Base64.decode?_encode] at declared
    exact (Option.some.inj declared).symm
  · intro given
    obtain ⟨ending, passed⟩ := given
    rw [attributes_withoutProof c offeredForm.nonce, finalRow, offeredRow]
    exact ⟨ending, passed⟩
  · intro given
    obtain ⟨-, nonces, salts, counts⟩ := given
    rw [reply, ServerFirst.parse_text ownNonce, eq_of_writtenForms offeredForm nonces salts counts]
  · intro given
    obtain ⟨beginning, passed⟩ := given
    rw [offeredRow, bare, h.nonce]
    exact ⟨beginning, passed⟩

end SharedTranscript

/-! ## A transcript with shifted boundaries -/

namespace Shifted

variable (n : Nonce)

/-- A client that acts as itself, without channel binding. -/
def client : Client := .start .sha1 "u" "p" none n

def credentials : Credentials := ⟨[1], [2], Policy.standard.minIterations⟩

def server : Server := .start ⟨.sha1, false⟩ (fun _ => some credentials) "s"

/-- What an attacker offers the client: a salt and a count of its own. -/
def offered : ServerFirst := ⟨n.text ++ "x", [], ⟨1, by decide, by decide⟩⟩

/-- The client's first message as the attacker passes it on: with another identity asked for, and
with what the client is to be offered for extensions. -/
def first : ClientFirst where
  header := "n,a=b,"
  flag := .unsupported
  authzid := some "b"
  bare := (client n).bare ++ "," ++ ServerFirst.text (offered n)
  mandatoryExtension := none
  username := "u"
  nonce := n.text
  extensions := some (ServerFirst.text (offered n))

def exchange : Exchange := server.exchange (first n) .unsupported none credentials

/-- What the server expects to be signed of a final message. -/
def expected : String := ClientFinal.withoutProofText (utf8 "n,a=b,") (n.text ++ "s")

/-- What the client signs of its final message. -/
def own : String := (client n).first.1.withoutProof (offered n).nonce

/-- What the client is given: the offer, then for extensions the server's reply and what the server
expects. -/
def serverFirst : String :=
  ServerFirst.text (offered n) ++ "," ++ (exchange n).serverFirst ++ "," ++ expected n

/-- What the server is given: what it expects, then for extensions what the client signs. -/
def final : ClientFinal where
  withoutProof := utf8 (expected n ++ "," ++ own n)
  binding := Base64.encode (utf8 "n,a=b,")
  nonce := utf8 (n.text ++ "s")
  proof := Base64.encode [0]

def message : Bytes := (final n).withoutProof ++ utf8 ",p=" ++ (final n).proof

/-- The altered first message is still in the grammar. -/
theorem first_wellFormed : (first n).WellFormed where
  flag := trivial
  authzid := by simp [first, SaslName.Usable]
  mandatoryExtension := by simp [first]
  username := by
    show SaslName.Usable "u"
    decide
  nonce := n.isNonce_text
  header_eq := by rfl
  bare_eq := by
    simp [first, client, Client.start, Client.bare, ClientFirst.mandatoryText,
      ClientFirst.extensionsText, String.append_assoc]

/-- The server takes the altered message and begins an exchange with it. -/
theorem takeFirst :
    (server.takeFirst (utf8 (first n).header ++ utf8 (first n).bare)).result = .ok (exchange n) :=
  Server.takeFirst_result_eq_ok_iff.mpr
    ⟨first n, .unsupported, none, credentials,
      ClientFirst.ofOctets_eq_ok_iff.mpr ⟨first_wellFormed n, rfl⟩, rfl, rfl, rfl, by rfl, rfl⟩

/-- A nonce stays one where allowed characters are added. -/
theorem isNonce_with (text : String) (ok : isNonce (utf8 text) := by decide) :
    isNonce (utf8 (n.text ++ text)) := by
  rw [utf8_append]
  exact isNonce_append n.isNonce_text ok

/-- What the attacker sends reads as its own offer: the server's reply behind it counts as
extensions. -/
theorem parse_serverFirst : ServerFirst.parse (serverFirst n) = .ok (offered n) := by
  let passed := "," ++ ((exchange n).serverFirst ++ "," ++ expected n)
  have written : serverFirst n = ServerFirst.text (offered n) ++ passed := by
    simp [serverFirst, passed, String.append_assoc]
  rw [written]
  exact ServerFirst.parse_text_append (isNonce_with n "x") (.inr ⟨_, String.toList_append ..⟩)

/-- The altered final message reads with the binding and the nonce that the server expects. -/
theorem parse_final : ClientFinal.parse (message n) = .ok (final n) := by
  have plain : ClientFinal.WellFormed (final n).binding (final n).nonce [] (final n).proof :=
    ClientFinal.wellFormed_text (by decide) (isNonce_with n "s") (by decide)
  have signed : (final n).withoutProof =
      ClientFinal.signedOctets (final n).binding (final n).nonce (comma :: utf8 (own n)) := by
    have mark : utf8 "," = [comma] := rfl
    rw [← ClientFinal.signedOctets_append]
    simp only [final, expected, utf8_append, ClientFinal.utf8_withoutProofText, mark,
      List.append_assoc, List.cons_append, List.nil_append]
  refine ClientFinal.parse_eq_ok_iff.mpr
    ⟨comma :: utf8 (own n), { plain with extensions := .inr ⟨_, rfl⟩ }, signed, ?_⟩
  rw [message, ClientFinal.octets, ← signed]

/-- **Both ends sign the same octets**, whatever nonce the client has drawn. -/
theorem sharedTranscript :
    SharedTranscript (client n) (serverFirst n) (offered n) server
      (utf8 (first n).header ++ utf8 (first n).bare) (message n) (exchange n) (final n) where
  answered := by
    refine ⟨_, Client.AwaitingFirst.answer_eq_ok_iff.mpr ⟨_, parse_serverFirst n, ?_, rfl⟩⟩
    exact Client.AwaitingFirst.extended_iff.mpr ⟨"x", by decide, rfl⟩
  readOffered := parse_serverFirst n
  fresh := rfl
  begun := by rw [(Server.receive_first_of_ok rfl (takeFirst n)).1]
  readFinal := parse_final n
  bound := by
    have value : (exchange n).bindingValue = utf8 "n,a=b," := List.append_nil _
    rw [checkBinding_eq_ok_iff, value]
    exact Base64.decode?_encode _
  nonce := rfl
  signed := by
    have mark : utf8 "," = [comma] := rfl
    rw [Exchange.transcript, flatten_transcript, flatten_transcript]
    show utf8 ((client n).bare ++ "," ++ ServerFirst.text (offered n)) ++
        comma :: (utf8 (exchange n).serverFirst ++ comma :: utf8 (expected n ++ "," ++ own n)) =
      utf8 (client n).bare ++ comma :: (utf8 (serverFirst n) ++ comma :: utf8 (own n))
    simp only [serverFirst, utf8_append, mark, List.append_assoc, List.cons_append, List.nil_append]

/-- The server's own reply reads as the salt and the count that it has stored. -/
theorem parse_exchange : ServerFirst.parse (exchange n).serverFirst =
    .ok ⟨n.text ++ "s", credentials.salt, credentials.iterations⟩ :=
  ServerFirst.parse_text (isNonce_with n "s")

/-- The binding the server checked is not the client's: the altered header asks for another
identity. -/
theorem bindingValue_ne : (exchange n).bindingValue ≠ (client n).first.1.binding := by
  have server : (exchange n).bindingValue = utf8 "n,a=b," := List.append_nil _
  have client : (client n).first.1.binding = utf8 "n,," := List.append_nil _
  rw [server, client]
  decide

end Shifted

/-- Both ends have done their checks and sign the same octets, and agree on nothing. -/
theorem shifted_transcript :
    let n := Nonce.client []
    SharedTranscript (Shifted.client n) (Shifted.serverFirst n) (Shifted.offered n) Shifted.server
      (utf8 (Shifted.first n).header ++ utf8 (Shifted.first n).bare) (Shifted.message n)
      (Shifted.exchange n) (Shifted.final n) ∧
    (Shifted.exchange n).bindingValue ≠ (Shifted.client n).first.1.binding ∧
    ∃ own, ServerFirst.parse (Shifted.exchange n).serverFirst = .ok own ∧
      own.salt ≠ (Shifted.offered n).salt ∧ own.iterations ≠ (Shifted.offered n).iterations := by
  intro n
  refine ⟨Shifted.sharedTranscript n, Shifted.bindingValue_ne n, _, Shifted.parse_exchange n, ?_, ?_⟩
  · show Shifted.credentials.salt ≠ []
    decide
  · show Shifted.credentials.iterations ≠ ⟨1, by decide, by decide⟩
    decide

/-- Here both agreements fail in their one way. -/
theorem agreement_of_shifted :
    let n := Nonce.client []
    SharedTranscript (Shifted.client n) (Shifted.serverFirst n) (Shifted.offered n) Shifted.server
      (utf8 (Shifted.first n).header ++ utf8 (Shifted.first n).bare) (Shifted.message n)
      (Shifted.exchange n) (Shifted.final n) ∧
    ((Shifted.exchange n).bindingValue = (Shifted.client n).first.1.binding ∨
      attributes (utf8 ((Shifted.client n).first.1.withoutProof (Shifted.offered n).nonce)) <:+
        (attributes (Shifted.final n).withoutProof).drop 2 ∧
      attrVal 'c' (Shifted.final n).binding ∈ (attributes (utf8 (Shifted.serverFirst n))).drop 3) ∧
    (ServerFirst.parse (Shifted.exchange n).serverFirst = .ok (Shifted.offered n) ∨
      (attributes (utf8 (Shifted.serverFirst n))).take 3 <+:
        (attributes (utf8 (Shifted.exchange n).clientFirstBare)).drop 2 ∧
      attrVal 'r' (Shifted.final n).nonce ∈ (attributes (utf8 (Shifted.serverFirst n))).drop 3) :=
  ⟨Shifted.sharedTranscript _, SharedTranscript.agreement (Shifted.sharedTranscript _)⟩

end Scram
