import ScanAccess.AccessToken
import ScanAccess.Action
import ScanAccess.Bytes.Base64
import ScanAccess.Bytes.Blake2b
import ScanAccess.Bytes.Hex
import ScanAccess.Codec.CharacterName
import ScanAccess.Codec.CharacterName.Alphabets
import ScanAccess.Codec.CharacterName.Ancient
import ScanAccess.Codec.CharacterName.EastAsian
import ScanAccess.Codec.CharacterName.Pictures
import ScanAccess.Codec.CharacterName.Run
import ScanAccess.Codec.CharacterName.Scripts
import ScanAccess.Codec.CharacterName.Symbols
import ScanAccess.Codec.CharacterSet
import ScanAccess.Codec.CharacterSet.ChineseExtension
import ScanAccess.Codec.CharacterSet.ChineseNational
import ScanAccess.Codec.CharacterSet.ChineseStandard
import ScanAccess.Codec.CharacterSet.JapaneseExtension
import ScanAccess.Codec.CharacterSet.JapaneseStandard
import ScanAccess.Codec.CharacterSet.JapaneseSupplement
import ScanAccess.Codec.CharacterSet.JapaneseVendor
import ScanAccess.Codec.CharacterSet.KoreanStandard
import ScanAccess.Codec.CharacterSet.KoreanSyllables
import ScanAccess.Codec.CharacterSet.TraditionalHongKong
import ScanAccess.Codec.CharacterSet.TraditionalStandard
import ScanAccess.Codec.CharacterSet.TraditionalVendor
import ScanAccess.Codec.Chinese
import ScanAccess.Codec.CodePage
import ScanAccess.Codec.CodePage.Desktop
import ScanAccess.Codec.CodePage.Mainframe
import ScanAccess.Codec.CodePage.Publishing
import ScanAccess.Codec.CodePage.Regional
import ScanAccess.Codec.CodePage.Standard
import ScanAccess.Codec.CodePage.Terminal
import ScanAccess.Codec.Decoding
import ScanAccess.Codec.Designation
import ScanAccess.Codec.DomainName
import ScanAccess.Codec.Encoding
import ScanAccess.Codec.EncodingName
import ScanAccess.Codec.Escape
import ScanAccess.Codec.Hangul
import ScanAccess.Codec.Japanese
import ScanAccess.Codec.Korean
import ScanAccess.Codec.Multibyte
import ScanAccess.Codec.Normalization
import ScanAccess.Codec.Normalization.CombiningClass
import ScanAccess.Codec.Normalization.Composition
import ScanAccess.Codec.Normalization.Decomposition
import ScanAccess.Codec.PreparedLabel
import ScanAccess.Codec.Punycode
import ScanAccess.Codec.Utf7
import ScanAccess.Codec.WideUnits
import ScanAccess.Desk
import ScanAccess.Dictionary
import ScanAccess.Environment
import ScanAccess.Failure
import ScanAccess.Fault
import ScanAccess.Fingerprint
import ScanAccess.Json.Reader
import ScanAccess.Json.Value
import ScanAccess.Json.Writer
import ScanAccess.Loader.Arguments
import ScanAccess.Loader.Check
import ScanAccess.Loader.CommandLine
import ScanAccess.Loader.DotEnv
import ScanAccess.Loader.Encodings
import ScanAccess.Loader.FileChoice
import ScanAccess.Loader.FileReading
import ScanAccess.Loader.Findings
import ScanAccess.Loader.Flag
import ScanAccess.Loader.FlagOptions
import ScanAccess.Loader.FlagPattern
import ScanAccess.Loader.ItemList
import ScanAccess.Loader.Loading
import ScanAccess.Loader.Misuse
import ScanAccess.Loader.Node
import ScanAccess.Loader.OptionValue
import ScanAccess.Loader.Options
import ScanAccess.Loader.Problem
import ScanAccess.Loader.Value
import ScanAccess.Log.Console
import ScanAccess.Log.Conversion
import ScanAccess.Log.Format
import ScanAccess.Log.Host
import ScanAccess.Log.Layout
import ScanAccess.Log.Level
import ScanAccess.Log.Logger
import ScanAccess.Log.Message
import ScanAccess.Log.Payload
import ScanAccess.Log.Record
import ScanAccess.Log.Redaction
import ScanAccess.Log.Spelling
import ScanAccess.Number.Binary64
import ScanAccess.Number.Places
import ScanAccess.Number.Power
import ScanAccess.Number.Reading
import ScanAccess.Number.Shortest
import ScanAccess.Proofs.AcceptedSettings
import ScanAccess.Proofs.Age
import ScanAccess.Proofs.Base64
import ScanAccess.Proofs.BothModes
import ScanAccess.Proofs.CanonicalUrl
import ScanAccess.Proofs.Chains
import ScanAccess.Proofs.Confinement
import ScanAccess.Proofs.Conversation
import ScanAccess.Proofs.DateOfDay
import ScanAccess.Proofs.DayCount
import ScanAccess.Proofs.DeskRun
import ScanAccess.Proofs.DocumentedLoader
import ScanAccess.Proofs.Drawing
import ScanAccess.Proofs.Erasure
import ScanAccess.Proofs.ExactAge
import ScanAccess.Proofs.FieldOrder
import ScanAccess.Proofs.FixedWidth
import ScanAccess.Proofs.FollowedDepth
import ScanAccess.Proofs.History
import ScanAccess.Proofs.Independence
import ScanAccess.Proofs.Issuing
import ScanAccess.Proofs.JsonGrammar
import ScanAccess.Proofs.JsonString
import ScanAccess.Proofs.JsonText
import ScanAccess.Proofs.Ledger
import ScanAccess.Proofs.LetterCase
import ScanAccess.Proofs.LineTime
import ScanAccess.Proofs.LogLine
import ScanAccess.Proofs.Loggable
import ScanAccess.Proofs.LoggerTree
import ScanAccess.Proofs.Numerals
import ScanAccess.Proofs.Opening
import ScanAccess.Proofs.OwnVariables
import ScanAccess.Proofs.PatternLanguage
import ScanAccess.Proofs.Permanence
import ScanAccess.Proofs.Position
import ScanAccess.Proofs.PrintableText
import ScanAccess.Proofs.PrintedOnce
import ScanAccess.Proofs.ReadingDepth
import ScanAccess.Proofs.Redacted
import ScanAccess.Proofs.References
import ScanAccess.Proofs.RegistryRun
import ScanAccess.Proofs.Reissue
import ScanAccess.Proofs.Renaming
import ScanAccess.Proofs.Seconds
import ScanAccess.Proofs.Secrecy
import ScanAccess.Proofs.SingleLine
import ScanAccess.Proofs.SourcePriority
import ScanAccess.Proofs.StandardJson
import ScanAccess.Proofs.StandardLines
import ScanAccess.Proofs.StoreRefinement
import ScanAccess.Proofs.StoreRun
import ScanAccess.Proofs.Twins
import ScanAccess.Proofs.UrlGrammar
import ScanAccess.Proofs.UrlSpelling
import ScanAccess.Proofs.UtcTime
import ScanAccess.Proofs.Verdict
import ScanAccess.Proofs.WholeSeconds
import ScanAccess.Registry
import ScanAccess.RepositoryUrl
import ScanAccess.RunningLibrary
import ScanAccess.ScriptedServices
import ScanAccess.Services
import ScanAccess.Settings.Library
import ScanAccess.Settings.Load
import ScanAccess.Settings.Refusal
import ScanAccess.Settings.Template
import ScanAccess.Settings.TokenSettings
import ScanAccess.Startup
import ScanAccess.Store
import ScanAccess.Text.Blank
import ScanAccess.Text.Case
import ScanAccess.Text.CodeRange
import ScanAccess.Text.DecimalDigit
import ScanAccess.Text.Half
import ScanAccess.Text.LowerCase
import ScanAccess.Text.Numeral
import ScanAccess.Text.Pattern
import ScanAccess.Text.Printable
import ScanAccess.Text.Quoted
import ScanAccess.Text.RawText
import ScanAccess.Text.WordCharacter
import ScanAccess.Time.Calendar
import ScanAccess.Time.Duration
import ScanAccess.Time.Timestamp
import ScanAccess.TokenGenerator
