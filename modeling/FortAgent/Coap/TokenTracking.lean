import FortAgent.Coap.PortTracker

/-!
# The token round trip

A request with a short token goes out with the client's port in its token, and
the response that echoes the token brings the port back.  The way back reads
nothing but the response: the table, and with it all traffic in between, plays
no part.  So two clients are told apart by their ports even if they choose the
same message id and the same token.
-/

namespace FortAgent.Coap

variable (crc8 : List UInt8 → UInt8)

/-- Three more bytes fit in front of a token of at most 4. -/
theorem length_trackingToken_append (port : UInt16) {token : List UInt8} (h : token.length ≤ 4) :
    (trackingToken crc8 port ++ token).length ≤ tokenMaxLen := by
  simp only [trackingToken, List.length_append, List.length_cons, List.length_nil, tokenMaxLen]
  omega

/-- The message with tracking bytes for `port` in front of its token. -/
def Message.withTracking (m : Message) (port : UInt16) (h : m.token.length ≤ 4) : Message :=
  m.withToken (trackingToken crc8 port ++ m.token) (length_trackingToken_append crc8 port h)

/-- **Token round trip.**  A request with a token of at most 4 bytes, and room for
3 more behind it, is forwarded with the tracking bytes in front of its token.  Any
response with the forwarded token, at any later time, yields the client's port
and is turned into the same response with the client's token. -/
theorem token_round_trip (now : SteadyTime) (port : UInt16) (maxLen : Nat) {frame : Frame}
    {m : Message} (hframe : frame.Holds m) (hrequest : m.isRequest = true)
    (htoken : m.token.length ≤ 4) (hroom : 3 ≤ maxLen - frame.len)
    (hmax : maxLen ≤ frame.buffer.length) :
    (∃ sent, (udpToSerial crc8 now port maxLen).run frame = .ok () sent ∧
      sent.Holds (m.withTracking crc8 port htoken) ∧ sent.len = frame.len + 3) ∧
    ∀ (later : Frame) (response : Message), later.Holds response →
      response.isResponse = true → response.token = (m.withTracking crc8 port htoken).token →
      ∃ received, (serialToUdp crc8).run later = .ok port received ∧
        received.Holds (response.withToken m.token m.token_length) ∧
        received.len = later.len - 3 ∧ received.tracker = later.tracker := by
  constructor
  · obtain ⟨slack, hbuffer, hlen⟩ := hframe
    obtain ⟨buffer, len, tracker⟩ := frame
    obtain rfl : buffer = m.bytes ++ slack := hbuffer
    obtain rfl : len = m.bytes.length := hlen
    have hfit : m.TokensFit (maxLen - m.bytes.length) := ⟨by omega, hroom⟩
    refine ⟨_, run_udpToSerial_of_tokensFit crc8 now port tracker hrequest hfit hmax
      (m.withTracking crc8 port htoken).token_length, ⟨slack.drop 3, rfl, ?_⟩, rfl⟩
    simp only [Message.length_bytes, Message.withTracking, Message.withToken, trackingToken,
      List.length_append, List.length_cons, List.length_nil]
    omega
  · intro later response hlater hresponse hsame
    obtain ⟨slack, hbuffer, hlen⟩ := hlater
    obtain ⟨buffer, len, tracker⟩ := later
    obtain rfl : buffer = response.bytes ++ slack := hbuffer
    obtain rfl : len = response.bytes.length := hlen
    obtain ⟨slack', hrun⟩ := run_serialToUdp_of_trackedPort crc8 slack tracker hresponse hsame
      m.token_length
    refine ⟨_, hrun, ⟨slack', rfl, ?_⟩, rfl, rfl⟩
    have hlength : response.token.length = m.token.length + 3 := by
      simp [hsame, Message.withTracking, Message.withToken, trackingToken]
    simp only [Message.length_bytes, Message.withToken, hlength]
    omega

/-- The round trip of a GET from port 7777 with a one-byte token. -/
theorem token_round_trip_get :
    let request := getRequest.withToken [0xAA] (by decide)
    let response := contentResponse.withToken (trackingToken crc8Poly07 7777 ++ [0xAA]) (by decide)
    (∃ sent, (udpToSerial crc8Poly07 0 7777 32).run (frameOf request (.new 5683)) = .ok () sent ∧
      sent.Holds (request.withTracking crc8Poly07 7777 (by decide)) ∧ sent.len = 8 + 3) ∧
    ∃ received, (serialToUdp crc8Poly07).run (frameOf response (.new 5683)) = .ok 7777 received ∧
      received.Holds (contentResponse.withToken [0xAA] (by decide)) := by
  intro request response
  obtain ⟨hsent, hround⟩ := token_round_trip crc8Poly07 0 7777 32
    (frameOf_holds request (.new 5683)) (by decide) (by decide) (by decide +kernel)
    (by decide +kernel)
  obtain ⟨received, hrun, hholds, -⟩ := hround (frameOf response (.new 5683)) response
    (frameOf_holds _ _) (by decide) (by decide +kernel)
  exact ⟨hsent, received, hrun, hholds⟩

end FortAgent.Coap
