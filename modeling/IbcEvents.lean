import IbcEvents.Text
import IbcEvents.Utf8
import IbcEvents.Decimal
import IbcEvents.Hex
import IbcEvents.Abci
import IbcEvents.Host
import IbcEvents.Codec
import IbcEvents.ChannelAttributes
import IbcEvents.PacketAttributes
import IbcEvents.PacketData
import IbcEvents.Registry
