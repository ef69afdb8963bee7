import StratumWire.BinarySv2
import StratumWire.Codec
import StratumWire.Flags
import StratumWire.SetupConnection
import StratumWire.MessageCodec
import StratumWire.Bridge
import StratumWire.Json
import StratumWire.Serde
import StratumWire.JsonRpc
import StratumWire.Heap
import StratumWire.Ownership
import StratumWire.Rpc
