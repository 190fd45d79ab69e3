import WeatherTables.Main
import WeatherTables.Fetch.Canned
import WeatherTables.Fetch.Session
import WeatherTables.Proofs.Json.RoundTrip
import WeatherTables.Proofs.Bundle.WireText
import WeatherTables.Proofs.Fetch.Exchange
import WeatherTables.Proofs.Fetch.LazyDispatch
import WeatherTables.Proofs.Adapter.CallSite
import WeatherTables.Proofs.Fetch.ParallelDispatch
import WeatherTables.Proofs.Bundle.Alternatives
import WeatherTables.Proofs.Adapter.FilterShape
import WeatherTables.Proofs.Adapter.HiddenKey
import WeatherTables.Proofs.Fetch.KeyInRecords
import WeatherTables.Proofs.Fetch.QueryString
import WeatherTables.Proofs.Table.SharedColumns
import WeatherTables.Proofs.Diagnostics.LineProtocol
import WeatherTables.Proofs.Bundle.Canonical
import WeatherTables.Proofs.Filter.Expansion
import WeatherTables.Proofs.Filter.ForeignKinds
import WeatherTables.Proofs.Bundle.PostalCodes
import WeatherTables.Proofs.Table.Readings
import WeatherTables.Proofs.Table.WrittenTimes
import WeatherTables.Proofs.Filter.NumberLiterals
import WeatherTables.Proofs.Filter.Displayed
import WeatherTables.Proofs.Filter.OperandOrder
import WeatherTables.Proofs.Bundle.BlankParameters
