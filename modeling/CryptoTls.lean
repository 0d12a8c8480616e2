import CryptoTls.Bytes
import CryptoTls.VarInt
import CryptoTls.TransportParams
import CryptoTls.Decode
import CryptoTls.Parameter
import CryptoTls.Framing
import CryptoTls.Progress
import CryptoTls.Reject
import CryptoTls.Limits
import CryptoTls.Reorder
import CryptoTls.Encode
import CryptoTls.Passes
import CryptoTls.EncodedParameters
import CryptoTls.RoundTrip
import CryptoTls.VersionInfo
import CryptoTls.Heap
import CryptoTls.Ownership
import CryptoTls.Ingest
import CryptoTls.Readers
import CryptoTls.Handshake
import CryptoTls.NameLists
import CryptoTls.Extensions
import CryptoTls.ClientHello
import CryptoTls.FirstFlight
import CryptoTls.Replay
