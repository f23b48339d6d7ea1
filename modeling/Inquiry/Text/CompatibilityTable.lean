/-!
# Compatibility equivalents

Presentation forms (ligatures, letters in circles, full-width and mathematical letters, small
raised letters) and the plain characters they stand for, decomposed as far as possible.
-/

namespace Inquiry.Text

/-- First and last form of a range and the plain character of the first; the plain characters
advance with the forms. -/
def compatibleRuns : List (Nat × Nat × Nat) := [
  (0x1D33, 0x1D3A, 0x0047), (0x1D5D, 0x1D5F, 0x03B2), (0x1DA4, 0x1DA6, 0x0268),
  (0x1DAE, 0x1DB1, 0x0272), (0x1DBC, 0x1DBE, 0x0290), (0x2074, 0x2079, 0x0034),
  (0x2080, 0x2089, 0x0030), (0x2096, 0x2099, 0x006B), (0x2119, 0x211B, 0x0050),
  (0x2135, 0x2138, 0x05D0), (0x2460, 0x2468, 0x0031), (0x24B6, 0x24CF, 0x0041),
  (0x24D0, 0x24E9, 0x0061), (0x3137, 0x3139, 0x1103), (0x313A, 0x313F, 0x11B0),
  (0x3141, 0x3143, 0x1106), (0x3145, 0x314E, 0x1109), (0x314F, 0x3163, 0x1161),
  (0x3178, 0x317C, 0x112B), (0x3184, 0x3186, 0x1157), (0x3263, 0x3265, 0x1105),
  (0x3269, 0x326D, 0x110E), (0x32E4, 0x32E9, 0x30CA), (0x32EE, 0x32F2, 0x30DE),
  (0x32F5, 0x32FA, 0x30E8), (0x32FB, 0x32FE, 0x30EF), (0xFB24, 0xFB26, 0x05DB),
  (0xFE41, 0xFE44, 0x300C), (0xFF01, 0xFF5E, 0x0021), (0xFF85, 0xFF8A, 0x30CA),
  (0xFF8F, 0xFF93, 0x30DE), (0xFF96, 0xFF9B, 0x30E8), (0xFFA7, 0xFFA9, 0x1103),
  (0xFFAA, 0xFFAF, 0x11B0), (0xFFB1, 0xFFB3, 0x1106), (0xFFB5, 0xFFBE, 0x1109),
  (0xFFC2, 0xFFC7, 0x1161), (0xFFCA, 0xFFCF, 0x1167), (0xFFD2, 0xFFD7, 0x116D),
  (0xFFDA, 0xFFDC, 0x1173), (0xFFE9, 0xFFEC, 0x2190), (0x107B6, 0x107B8, 0x01C0),
  (0x1D400, 0x1D419, 0x0041), (0x1D41A, 0x1D433, 0x0061), (0x1D434, 0x1D44D, 0x0041),
  (0x1D44E, 0x1D454, 0x0061), (0x1D456, 0x1D467, 0x0069), (0x1D468, 0x1D481, 0x0041),
  (0x1D482, 0x1D49B, 0x0061), (0x1D4A9, 0x1D4AC, 0x004E), (0x1D4AE, 0x1D4B5, 0x0053),
  (0x1D4B6, 0x1D4B9, 0x0061), (0x1D4BD, 0x1D4C3, 0x0068), (0x1D4C5, 0x1D4CF, 0x0070),
  (0x1D4D0, 0x1D4E9, 0x0041), (0x1D4EA, 0x1D503, 0x0061), (0x1D507, 0x1D50A, 0x0044),
  (0x1D50D, 0x1D514, 0x004A), (0x1D516, 0x1D51C, 0x0053), (0x1D51E, 0x1D537, 0x0061),
  (0x1D53B, 0x1D53E, 0x0044), (0x1D540, 0x1D544, 0x0049), (0x1D54A, 0x1D550, 0x0053),
  (0x1D552, 0x1D56B, 0x0061), (0x1D56C, 0x1D585, 0x0041), (0x1D586, 0x1D59F, 0x0061),
  (0x1D5A0, 0x1D5B9, 0x0041), (0x1D5BA, 0x1D5D3, 0x0061), (0x1D5D4, 0x1D5ED, 0x0041),
  (0x1D5EE, 0x1D607, 0x0061), (0x1D608, 0x1D621, 0x0041), (0x1D622, 0x1D63B, 0x0061),
  (0x1D63C, 0x1D655, 0x0041), (0x1D656, 0x1D66F, 0x0061), (0x1D670, 0x1D689, 0x0041),
  (0x1D68A, 0x1D6A3, 0x0061), (0x1D6A8, 0x1D6B8, 0x0391), (0x1D6BA, 0x1D6C0, 0x03A3),
  (0x1D6C2, 0x1D6DA, 0x03B1), (0x1D6E2, 0x1D6F2, 0x0391), (0x1D6F4, 0x1D6FA, 0x03A3),
  (0x1D6FC, 0x1D714, 0x03B1), (0x1D71C, 0x1D72C, 0x0391), (0x1D72E, 0x1D734, 0x03A3),
  (0x1D736, 0x1D74E, 0x03B1), (0x1D756, 0x1D766, 0x0391), (0x1D768, 0x1D76E, 0x03A3),
  (0x1D770, 0x1D788, 0x03B1), (0x1D790, 0x1D7A0, 0x0391), (0x1D7A2, 0x1D7A8, 0x03A3),
  (0x1D7AA, 0x1D7C2, 0x03B1), (0x1D7CE, 0x1D7D7, 0x0030), (0x1D7D8, 0x1D7E1, 0x0030),
  (0x1D7E2, 0x1D7EB, 0x0030), (0x1D7EC, 0x1D7F5, 0x0030), (0x1D7F6, 0x1D7FF, 0x0030),
  (0x1EE0A, 0x1EE0D, 0x0643), (0x1EE2A, 0x1EE2D, 0x0643), (0x1EE8B, 0x1EE8D, 0x0644),
  (0x1EEAB, 0x1EEAD, 0x0644), (0x1F130, 0x1F149, 0x0041), (0x1FBF0, 0x1FBF9, 0x0030)]

/-- Single forms below U+2E80: letters, small raised letters, fractions and ligatures. -/
def compatibleLetters : List (Nat × List Nat) := [
  (0x00A0, [0x0020]), (0x00A8, [0x0020, 0x0308]), (0x00AA, [0x0061]), (0x00AF, [0x0020, 0x0304]),
  (0x00B2, [0x0032]), (0x00B3, [0x0033]), (0x00B4, [0x0020, 0x0301]), (0x00B5, [0x03BC]),
  (0x00B8, [0x0020, 0x0327]), (0x00B9, [0x0031]), (0x00BA, [0x006F]),
  (0x00BC, [0x0031, 0x2044, 0x0034]), (0x00BD, [0x0031, 0x2044, 0x0032]),
  (0x00BE, [0x0033, 0x2044, 0x0034]), (0x0132, [0x0049, 0x004A]), (0x0133, [0x0069, 0x006A]),
  (0x013F, [0x004C, 0x00B7]), (0x0140, [0x006C, 0x00B7]), (0x0149, [0x02BC, 0x006E]),
  (0x017F, [0x0073]), (0x01C4, [0x0044, 0x005A, 0x030C]), (0x01C5, [0x0044, 0x007A, 0x030C]),
  (0x01C6, [0x0064, 0x007A, 0x030C]), (0x01C7, [0x004C, 0x004A]), (0x01C8, [0x004C, 0x006A]),
  (0x01C9, [0x006C, 0x006A]), (0x01CA, [0x004E, 0x004A]), (0x01CB, [0x004E, 0x006A]),
  (0x01CC, [0x006E, 0x006A]), (0x01F1, [0x0044, 0x005A]), (0x01F2, [0x0044, 0x007A]),
  (0x01F3, [0x0064, 0x007A]), (0x02B0, [0x0068]), (0x02B1, [0x0266]), (0x02B2, [0x006A]),
  (0x02B3, [0x0072]), (0x02B4, [0x0279]), (0x02B5, [0x027B]), (0x02B6, [0x0281]),
  (0x02B7, [0x0077]), (0x02B8, [0x0079]), (0x02D8, [0x0020, 0x0306]), (0x02D9, [0x0020, 0x0307]),
  (0x02DA, [0x0020, 0x030A]), (0x02DB, [0x0020, 0x0328]), (0x02DC, [0x0020, 0x0303]),
  (0x02DD, [0x0020, 0x030B]), (0x02E0, [0x0263]), (0x02E1, [0x006C]), (0x02E2, [0x0073]),
  (0x02E3, [0x0078]), (0x02E4, [0x0295]), (0x037A, [0x0020, 0x0345]), (0x0384, [0x0020, 0x0301]),
  (0x03D0, [0x03B2]), (0x03D1, [0x03B8]), (0x03D2, [0x03A5]), (0x03D5, [0x03C6]),
  (0x03D6, [0x03C0]), (0x03F0, [0x03BA]), (0x03F1, [0x03C1]), (0x03F2, [0x03C2]),
  (0x03F4, [0x0398]), (0x03F5, [0x03B5]), (0x03F9, [0x03A3]), (0x0587, [0x0565, 0x0582]),
  (0x0675, [0x0627, 0x0674]), (0x0676, [0x0648, 0x0674]), (0x0677, [0x06C7, 0x0674]),
  (0x0678, [0x064A, 0x0674]), (0x0E33, [0x0E4D, 0x0E32]), (0x0EB3, [0x0ECD, 0x0EB2]),
  (0x0EDC, [0x0EAB, 0x0E99]), (0x0EDD, [0x0EAB, 0x0EA1]), (0x0F0C, [0x0F0B]),
  (0x0F77, [0x0FB2, 0x0F71, 0x0F80]), (0x0F79, [0x0FB3, 0x0F71, 0x0F80]), (0x10FC, [0x10DC]),
  (0x1D2C, [0x0041]), (0x1D2D, [0x00C6]), (0x1D2E, [0x0042]), (0x1D30, [0x0044]),
  (0x1D31, [0x0045]), (0x1D32, [0x018E]), (0x1D3C, [0x004F]), (0x1D3D, [0x0222]),
  (0x1D3E, [0x0050]), (0x1D3F, [0x0052]), (0x1D40, [0x0054]), (0x1D41, [0x0055]),
  (0x1D42, [0x0057]), (0x1D43, [0x0061]), (0x1D44, [0x0250]), (0x1D45, [0x0251]),
  (0x1D46, [0x1D02]), (0x1D47, [0x0062]), (0x1D48, [0x0064]), (0x1D49, [0x0065]),
  (0x1D4A, [0x0259]), (0x1D4B, [0x025B]), (0x1D4C, [0x025C]), (0x1D4D, [0x0067]),
  (0x1D4F, [0x006B]), (0x1D50, [0x006D]), (0x1D51, [0x014B]), (0x1D52, [0x006F]),
  (0x1D53, [0x0254]), (0x1D54, [0x1D16]), (0x1D55, [0x1D17]), (0x1D56, [0x0070]),
  (0x1D57, [0x0074]), (0x1D58, [0x0075]), (0x1D59, [0x1D1D]), (0x1D5A, [0x026F]),
  (0x1D5B, [0x0076]), (0x1D5C, [0x1D25]), (0x1D60, [0x03C6]), (0x1D61, [0x03C7]),
  (0x1D62, [0x0069]), (0x1D63, [0x0072]), (0x1D64, [0x0075]), (0x1D65, [0x0076]),
  (0x1D66, [0x03B2]), (0x1D67, [0x03B3]), (0x1D68, [0x03C1]), (0x1D69, [0x03C6]),
  (0x1D6A, [0x03C7]), (0x1D78, [0x043D]), (0x1D9B, [0x0252]), (0x1D9C, [0x0063]),
  (0x1D9D, [0x0255]), (0x1D9E, [0x00F0]), (0x1D9F, [0x025C]), (0x1DA0, [0x0066]),
  (0x1DA1, [0x025F]), (0x1DA2, [0x0261]), (0x1DA3, [0x0265]), (0x1DA7, [0x1D7B]),
  (0x1DA8, [0x029D]), (0x1DA9, [0x026D]), (0x1DAA, [0x1D85]), (0x1DAB, [0x029F]),
  (0x1DAC, [0x0271]), (0x1DAD, [0x0270]), (0x1DB2, [0x0278]), (0x1DB3, [0x0282]),
  (0x1DB4, [0x0283]), (0x1DB5, [0x01AB]), (0x1DB6, [0x0289]), (0x1DB7, [0x028A]),
  (0x1DB8, [0x1D1C]), (0x1DB9, [0x028B]), (0x1DBA, [0x028C]), (0x1DBB, [0x007A]),
  (0x1DBF, [0x03B8]), (0x1E9A, [0x0061, 0x02BE]), (0x1FBD, [0x0020, 0x0313]),
  (0x1FBF, [0x0020, 0x0313]), (0x1FC0, [0x0020, 0x0342]), (0x1FFE, [0x0020, 0x0314]),
  (0x2002, [0x0020]), (0x2003, [0x0020]), (0x2004, [0x0020]), (0x2005, [0x0020]),
  (0x2006, [0x0020]), (0x2007, [0x0020]), (0x2008, [0x0020]), (0x2009, [0x0020]),
  (0x200A, [0x0020]), (0x2011, [0x2010]), (0x2017, [0x0020, 0x0333]), (0x2024, [0x002E]),
  (0x2025, [0x002E, 0x002E]), (0x2026, [0x002E, 0x002E, 0x002E]), (0x202F, [0x0020]),
  (0x2033, [0x2032, 0x2032]), (0x2034, [0x2032, 0x2032, 0x2032]), (0x2036, [0x2035, 0x2035]),
  (0x2037, [0x2035, 0x2035, 0x2035]), (0x203C, [0x0021, 0x0021]), (0x203E, [0x0020, 0x0305]),
  (0x2047, [0x003F, 0x003F]), (0x2048, [0x003F, 0x0021]), (0x2049, [0x0021, 0x003F]),
  (0x2057, [0x2032, 0x2032, 0x2032, 0x2032]), (0x205F, [0x0020]), (0x2070, [0x0030]),
  (0x2071, [0x0069]), (0x207A, [0x002B]), (0x207B, [0x2212]), (0x207C, [0x003D]),
  (0x207D, [0x0028]), (0x207E, [0x0029]), (0x207F, [0x006E]), (0x208A, [0x002B]),
  (0x208B, [0x2212]), (0x208C, [0x003D]), (0x208D, [0x0028]), (0x208E, [0x0029]),
  (0x2090, [0x0061]), (0x2091, [0x0065]), (0x2092, [0x006F]), (0x2093, [0x0078]),
  (0x2094, [0x0259]), (0x2095, [0x0068]), (0x209A, [0x0070]), (0x209B, [0x0073]),
  (0x209C, [0x0074]), (0x20A8, [0x0052, 0x0073]), (0x2100, [0x0061, 0x002F, 0x0063]),
  (0x2101, [0x0061, 0x002F, 0x0073]), (0x2102, [0x0043]), (0x2103, [0x00B0, 0x0043]),
  (0x2105, [0x0063, 0x002F, 0x006F]), (0x2106, [0x0063, 0x002F, 0x0075]), (0x2107, [0x0190]),
  (0x2109, [0x00B0, 0x0046]), (0x210A, [0x0067]), (0x210B, [0x0048]), (0x210C, [0x0048]),
  (0x210D, [0x0048]), (0x210E, [0x0068]), (0x210F, [0x0127]), (0x2110, [0x0049]),
  (0x2111, [0x0049]), (0x2112, [0x004C]), (0x2113, [0x006C]), (0x2115, [0x004E]),
  (0x2116, [0x004E, 0x006F]), (0x211C, [0x0052]), (0x211D, [0x0052]), (0x2120, [0x0053, 0x004D]),
  (0x2121, [0x0054, 0x0045, 0x004C]), (0x2122, [0x0054, 0x004D]), (0x2124, [0x005A]),
  (0x2128, [0x005A]), (0x212C, [0x0042]), (0x212D, [0x0043]), (0x212F, [0x0065]),
  (0x2130, [0x0045]), (0x2131, [0x0046]), (0x2133, [0x004D]), (0x2134, [0x006F]),
  (0x2139, [0x0069]), (0x213B, [0x0046, 0x0041, 0x0058]), (0x213C, [0x03C0]), (0x213D, [0x03B3]),
  (0x213E, [0x0393]), (0x213F, [0x03A0]), (0x2140, [0x2211]), (0x2145, [0x0044]),
  (0x2146, [0x0064]), (0x2147, [0x0065]), (0x2148, [0x0069]), (0x2149, [0x006A]),
  (0x2150, [0x0031, 0x2044, 0x0037]), (0x2151, [0x0031, 0x2044, 0x0039]),
  (0x2152, [0x0031, 0x2044, 0x0031, 0x0030]), (0x2153, [0x0031, 0x2044, 0x0033]),
  (0x2154, [0x0032, 0x2044, 0x0033]), (0x2155, [0x0031, 0x2044, 0x0035]),
  (0x2156, [0x0032, 0x2044, 0x0035]), (0x2157, [0x0033, 0x2044, 0x0035]),
  (0x2158, [0x0034, 0x2044, 0x0035]), (0x2159, [0x0031, 0x2044, 0x0036]),
  (0x215A, [0x0035, 0x2044, 0x0036]), (0x215B, [0x0031, 0x2044, 0x0038]),
  (0x215C, [0x0033, 0x2044, 0x0038]), (0x215D, [0x0035, 0x2044, 0x0038]),
  (0x215E, [0x0037, 0x2044, 0x0038]), (0x215F, [0x0031, 0x2044]), (0x2160, [0x0049]),
  (0x2161, [0x0049, 0x0049]), (0x2162, [0x0049, 0x0049, 0x0049]), (0x2163, [0x0049, 0x0056]),
  (0x2164, [0x0056]), (0x2165, [0x0056, 0x0049]), (0x2166, [0x0056, 0x0049, 0x0049]),
  (0x2167, [0x0056, 0x0049, 0x0049, 0x0049]), (0x2168, [0x0049, 0x0058]), (0x2169, [0x0058]),
  (0x216A, [0x0058, 0x0049]), (0x216B, [0x0058, 0x0049, 0x0049]), (0x216C, [0x004C]),
  (0x216D, [0x0043]), (0x216E, [0x0044]), (0x216F, [0x004D]), (0x2170, [0x0069]),
  (0x2171, [0x0069, 0x0069]), (0x2172, [0x0069, 0x0069, 0x0069]), (0x2173, [0x0069, 0x0076]),
  (0x2174, [0x0076]), (0x2175, [0x0076, 0x0069]), (0x2176, [0x0076, 0x0069, 0x0069]),
  (0x2177, [0x0076, 0x0069, 0x0069, 0x0069]), (0x2178, [0x0069, 0x0078]), (0x2179, [0x0078]),
  (0x217A, [0x0078, 0x0069]), (0x217B, [0x0078, 0x0069, 0x0069]), (0x217C, [0x006C]),
  (0x217D, [0x0063]), (0x217E, [0x0064]), (0x217F, [0x006D]), (0x2189, [0x0030, 0x2044, 0x0033]),
  (0x222C, [0x222B, 0x222B]), (0x222D, [0x222B, 0x222B, 0x222B]), (0x222F, [0x222E, 0x222E]),
  (0x2230, [0x222E, 0x222E, 0x222E]), (0x2469, [0x0031, 0x0030]), (0x246A, [0x0031, 0x0031]),
  (0x246B, [0x0031, 0x0032]), (0x246C, [0x0031, 0x0033]), (0x246D, [0x0031, 0x0034]),
  (0x246E, [0x0031, 0x0035]), (0x246F, [0x0031, 0x0036]), (0x2470, [0x0031, 0x0037]),
  (0x2471, [0x0031, 0x0038]), (0x2472, [0x0031, 0x0039]), (0x2473, [0x0032, 0x0030]),
  (0x2474, [0x0028, 0x0031, 0x0029]), (0x2475, [0x0028, 0x0032, 0x0029]),
  (0x2476, [0x0028, 0x0033, 0x0029]), (0x2477, [0x0028, 0x0034, 0x0029]),
  (0x2478, [0x0028, 0x0035, 0x0029]), (0x2479, [0x0028, 0x0036, 0x0029]),
  (0x247A, [0x0028, 0x0037, 0x0029]), (0x247B, [0x0028, 0x0038, 0x0029]),
  (0x247C, [0x0028, 0x0039, 0x0029]), (0x247D, [0x0028, 0x0031, 0x0030, 0x0029]),
  (0x247E, [0x0028, 0x0031, 0x0031, 0x0029]), (0x247F, [0x0028, 0x0031, 0x0032, 0x0029]),
  (0x2480, [0x0028, 0x0031, 0x0033, 0x0029]), (0x2481, [0x0028, 0x0031, 0x0034, 0x0029]),
  (0x2482, [0x0028, 0x0031, 0x0035, 0x0029]), (0x2483, [0x0028, 0x0031, 0x0036, 0x0029]),
  (0x2484, [0x0028, 0x0031, 0x0037, 0x0029]), (0x2485, [0x0028, 0x0031, 0x0038, 0x0029]),
  (0x2486, [0x0028, 0x0031, 0x0039, 0x0029]), (0x2487, [0x0028, 0x0032, 0x0030, 0x0029]),
  (0x2488, [0x0031, 0x002E]), (0x2489, [0x0032, 0x002E]), (0x248A, [0x0033, 0x002E]),
  (0x248B, [0x0034, 0x002E]), (0x248C, [0x0035, 0x002E]), (0x248D, [0x0036, 0x002E]),
  (0x248E, [0x0037, 0x002E]), (0x248F, [0x0038, 0x002E]), (0x2490, [0x0039, 0x002E]),
  (0x2491, [0x0031, 0x0030, 0x002E]), (0x2492, [0x0031, 0x0031, 0x002E]),
  (0x2493, [0x0031, 0x0032, 0x002E]), (0x2494, [0x0031, 0x0033, 0x002E]),
  (0x2495, [0x0031, 0x0034, 0x002E]), (0x2496, [0x0031, 0x0035, 0x002E]),
  (0x2497, [0x0031, 0x0036, 0x002E]), (0x2498, [0x0031, 0x0037, 0x002E]),
  (0x2499, [0x0031, 0x0038, 0x002E]), (0x249A, [0x0031, 0x0039, 0x002E]),
  (0x249B, [0x0032, 0x0030, 0x002E]), (0x249C, [0x0028, 0x0061, 0x0029]),
  (0x249D, [0x0028, 0x0062, 0x0029]), (0x249E, [0x0028, 0x0063, 0x0029]),
  (0x249F, [0x0028, 0x0064, 0x0029]), (0x24A0, [0x0028, 0x0065, 0x0029]),
  (0x24A1, [0x0028, 0x0066, 0x0029]), (0x24A2, [0x0028, 0x0067, 0x0029]),
  (0x24A3, [0x0028, 0x0068, 0x0029]), (0x24A4, [0x0028, 0x0069, 0x0029]),
  (0x24A5, [0x0028, 0x006A, 0x0029]), (0x24A6, [0x0028, 0x006B, 0x0029]),
  (0x24A7, [0x0028, 0x006C, 0x0029]), (0x24A8, [0x0028, 0x006D, 0x0029]),
  (0x24A9, [0x0028, 0x006E, 0x0029]), (0x24AA, [0x0028, 0x006F, 0x0029]),
  (0x24AB, [0x0028, 0x0070, 0x0029]), (0x24AC, [0x0028, 0x0071, 0x0029]),
  (0x24AD, [0x0028, 0x0072, 0x0029]), (0x24AE, [0x0028, 0x0073, 0x0029]),
  (0x24AF, [0x0028, 0x0074, 0x0029]), (0x24B0, [0x0028, 0x0075, 0x0029]),
  (0x24B1, [0x0028, 0x0076, 0x0029]), (0x24B2, [0x0028, 0x0077, 0x0029]),
  (0x24B3, [0x0028, 0x0078, 0x0029]), (0x24B4, [0x0028, 0x0079, 0x0029]),
  (0x24B5, [0x0028, 0x007A, 0x0029]), (0x24EA, [0x0030]),
  (0x2A0C, [0x222B, 0x222B, 0x222B, 0x222B]), (0x2A74, [0x003A, 0x003A, 0x003D]),
  (0x2A75, [0x003D, 0x003D]), (0x2A76, [0x003D, 0x003D, 0x003D]), (0x2C7C, [0x006A]),
  (0x2C7D, [0x0056]), (0x2D6F, [0x2D61])]

/-- Single forms from U+2E80 to U+F8FF: radicals, circled and squared signs. -/
def compatibleIdeographs : List (Nat × List Nat) := [
  (0x2E9F, [0x6BCD]), (0x2EF3, [0x9F9F]), (0x2F00, [0x4E00]), (0x2F01, [0x4E28]),
  (0x2F02, [0x4E36]), (0x2F03, [0x4E3F]), (0x2F04, [0x4E59]), (0x2F05, [0x4E85]),
  (0x2F06, [0x4E8C]), (0x2F07, [0x4EA0]), (0x2F08, [0x4EBA]), (0x2F09, [0x513F]),
  (0x2F0A, [0x5165]), (0x2F0B, [0x516B]), (0x2F0C, [0x5182]), (0x2F0D, [0x5196]),
  (0x2F0E, [0x51AB]), (0x2F0F, [0x51E0]), (0x2F10, [0x51F5]), (0x2F11, [0x5200]),
  (0x2F12, [0x529B]), (0x2F13, [0x52F9]), (0x2F14, [0x5315]), (0x2F15, [0x531A]),
  (0x2F16, [0x5338]), (0x2F17, [0x5341]), (0x2F18, [0x535C]), (0x2F19, [0x5369]),
  (0x2F1A, [0x5382]), (0x2F1B, [0x53B6]), (0x2F1C, [0x53C8]), (0x2F1D, [0x53E3]),
  (0x2F1E, [0x56D7]), (0x2F1F, [0x571F]), (0x2F20, [0x58EB]), (0x2F21, [0x5902]),
  (0x2F22, [0x590A]), (0x2F23, [0x5915]), (0x2F24, [0x5927]), (0x2F25, [0x5973]),
  (0x2F26, [0x5B50]), (0x2F27, [0x5B80]), (0x2F28, [0x5BF8]), (0x2F29, [0x5C0F]),
  (0x2F2A, [0x5C22]), (0x2F2B, [0x5C38]), (0x2F2C, [0x5C6E]), (0x2F2D, [0x5C71]),
  (0x2F2E, [0x5DDB]), (0x2F2F, [0x5DE5]), (0x2F30, [0x5DF1]), (0x2F31, [0x5DFE]),
  (0x2F32, [0x5E72]), (0x2F33, [0x5E7A]), (0x2F34, [0x5E7F]), (0x2F35, [0x5EF4]),
  (0x2F36, [0x5EFE]), (0x2F37, [0x5F0B]), (0x2F38, [0x5F13]), (0x2F39, [0x5F50]),
  (0x2F3A, [0x5F61]), (0x2F3B, [0x5F73]), (0x2F3C, [0x5FC3]), (0x2F3D, [0x6208]),
  (0x2F3E, [0x6236]), (0x2F3F, [0x624B]), (0x2F40, [0x652F]), (0x2F41, [0x6534]),
  (0x2F42, [0x6587]), (0x2F43, [0x6597]), (0x2F44, [0x65A4]), (0x2F45, [0x65B9]),
  (0x2F46, [0x65E0]), (0x2F47, [0x65E5]), (0x2F48, [0x66F0]), (0x2F49, [0x6708]),
  (0x2F4A, [0x6728]), (0x2F4B, [0x6B20]), (0x2F4C, [0x6B62]), (0x2F4D, [0x6B79]),
  (0x2F4E, [0x6BB3]), (0x2F4F, [0x6BCB]), (0x2F50, [0x6BD4]), (0x2F51, [0x6BDB]),
  (0x2F52, [0x6C0F]), (0x2F53, [0x6C14]), (0x2F54, [0x6C34]), (0x2F55, [0x706B]),
  (0x2F56, [0x722A]), (0x2F57, [0x7236]), (0x2F58, [0x723B]), (0x2F59, [0x723F]),
  (0x2F5A, [0x7247]), (0x2F5B, [0x7259]), (0x2F5C, [0x725B]), (0x2F5D, [0x72AC]),
  (0x2F5E, [0x7384]), (0x2F5F, [0x7389]), (0x2F60, [0x74DC]), (0x2F61, [0x74E6]),
  (0x2F62, [0x7518]), (0x2F63, [0x751F]), (0x2F64, [0x7528]), (0x2F65, [0x7530]),
  (0x2F66, [0x758B]), (0x2F67, [0x7592]), (0x2F68, [0x7676]), (0x2F69, [0x767D]),
  (0x2F6A, [0x76AE]), (0x2F6B, [0x76BF]), (0x2F6C, [0x76EE]), (0x2F6D, [0x77DB]),
  (0x2F6E, [0x77E2]), (0x2F6F, [0x77F3]), (0x2F70, [0x793A]), (0x2F71, [0x79B8]),
  (0x2F72, [0x79BE]), (0x2F73, [0x7A74]), (0x2F74, [0x7ACB]), (0x2F75, [0x7AF9]),
  (0x2F76, [0x7C73]), (0x2F77, [0x7CF8]), (0x2F78, [0x7F36]), (0x2F79, [0x7F51]),
  (0x2F7A, [0x7F8A]), (0x2F7B, [0x7FBD]), (0x2F7C, [0x8001]), (0x2F7D, [0x800C]),
  (0x2F7E, [0x8012]), (0x2F7F, [0x8033]), (0x2F80, [0x807F]), (0x2F81, [0x8089]),
  (0x2F82, [0x81E3]), (0x2F83, [0x81EA]), (0x2F84, [0x81F3]), (0x2F85, [0x81FC]),
  (0x2F86, [0x820C]), (0x2F87, [0x821B]), (0x2F88, [0x821F]), (0x2F89, [0x826E]),
  (0x2F8A, [0x8272]), (0x2F8B, [0x8278]), (0x2F8C, [0x864D]), (0x2F8D, [0x866B]),
  (0x2F8E, [0x8840]), (0x2F8F, [0x884C]), (0x2F90, [0x8863]), (0x2F91, [0x897E]),
  (0x2F92, [0x898B]), (0x2F93, [0x89D2]), (0x2F94, [0x8A00]), (0x2F95, [0x8C37]),
  (0x2F96, [0x8C46]), (0x2F97, [0x8C55]), (0x2F98, [0x8C78]), (0x2F99, [0x8C9D]),
  (0x2F9A, [0x8D64]), (0x2F9B, [0x8D70]), (0x2F9C, [0x8DB3]), (0x2F9D, [0x8EAB]),
  (0x2F9E, [0x8ECA]), (0x2F9F, [0x8F9B]), (0x2FA0, [0x8FB0]), (0x2FA1, [0x8FB5]),
  (0x2FA2, [0x9091]), (0x2FA3, [0x9149]), (0x2FA4, [0x91C6]), (0x2FA5, [0x91CC]),
  (0x2FA6, [0x91D1]), (0x2FA7, [0x9577]), (0x2FA8, [0x9580]), (0x2FA9, [0x961C]),
  (0x2FAA, [0x96B6]), (0x2FAB, [0x96B9]), (0x2FAC, [0x96E8]), (0x2FAD, [0x9751]),
  (0x2FAE, [0x975E]), (0x2FAF, [0x9762]), (0x2FB0, [0x9769]), (0x2FB1, [0x97CB]),
  (0x2FB2, [0x97ED]), (0x2FB3, [0x97F3]), (0x2FB4, [0x9801]), (0x2FB5, [0x98A8]),
  (0x2FB6, [0x98DB]), (0x2FB7, [0x98DF]), (0x2FB8, [0x9996]), (0x2FB9, [0x9999]),
  (0x2FBA, [0x99AC]), (0x2FBB, [0x9AA8]), (0x2FBC, [0x9AD8]), (0x2FBD, [0x9ADF]),
  (0x2FBE, [0x9B25]), (0x2FBF, [0x9B2F]), (0x2FC0, [0x9B32]), (0x2FC1, [0x9B3C]),
  (0x2FC2, [0x9B5A]), (0x2FC3, [0x9CE5]), (0x2FC4, [0x9E75]), (0x2FC5, [0x9E7F]),
  (0x2FC6, [0x9EA5]), (0x2FC7, [0x9EBB]), (0x2FC8, [0x9EC3]), (0x2FC9, [0x9ECD]),
  (0x2FCA, [0x9ED1]), (0x2FCB, [0x9EF9]), (0x2FCC, [0x9EFD]), (0x2FCD, [0x9F0E]),
  (0x2FCE, [0x9F13]), (0x2FCF, [0x9F20]), (0x2FD0, [0x9F3B]), (0x2FD1, [0x9F4A]),
  (0x2FD2, [0x9F52]), (0x2FD3, [0x9F8D]), (0x2FD4, [0x9F9C]), (0x2FD5, [0x9FA0]),
  (0x3000, [0x0020]), (0x3036, [0x3012]), (0x3038, [0x5341]), (0x3039, [0x5344]),
  (0x303A, [0x5345]), (0x309B, [0x0020, 0x3099]), (0x309C, [0x0020, 0x309A]),
  (0x309F, [0x3088, 0x308A]), (0x30FF, [0x30B3, 0x30C8]), (0x3131, [0x1100]), (0x3132, [0x1101]),
  (0x3133, [0x11AA]), (0x3134, [0x1102]), (0x3135, [0x11AC]), (0x3136, [0x11AD]),
  (0x3140, [0x111A]), (0x3144, [0x1121]), (0x3164, [0x1160]), (0x3165, [0x1114]),
  (0x3166, [0x1115]), (0x3167, [0x11C7]), (0x3168, [0x11C8]), (0x3169, [0x11CC]),
  (0x316A, [0x11CE]), (0x316B, [0x11D3]), (0x316C, [0x11D7]), (0x316D, [0x11D9]),
  (0x316E, [0x111C]), (0x316F, [0x11DD]), (0x3170, [0x11DF]), (0x3171, [0x111D]),
  (0x3172, [0x111E]), (0x3173, [0x1120]), (0x3174, [0x1122]), (0x3175, [0x1123]),
  (0x3176, [0x1127]), (0x3177, [0x1129]), (0x317D, [0x1132]), (0x317E, [0x1136]),
  (0x317F, [0x1140]), (0x3180, [0x1147]), (0x3181, [0x114C]), (0x3182, [0x11F1]),
  (0x3183, [0x11F2]), (0x3187, [0x1184]), (0x3188, [0x1185]), (0x3189, [0x1188]),
  (0x318A, [0x1191]), (0x318B, [0x1192]), (0x318C, [0x1194]), (0x318D, [0x119E]),
  (0x318E, [0x11A1]), (0x3192, [0x4E00]), (0x3193, [0x4E8C]), (0x3194, [0x4E09]),
  (0x3195, [0x56DB]), (0x3196, [0x4E0A]), (0x3197, [0x4E2D]), (0x3198, [0x4E0B]),
  (0x3199, [0x7532]), (0x319A, [0x4E59]), (0x319B, [0x4E19]), (0x319C, [0x4E01]),
  (0x319D, [0x5929]), (0x319E, [0x5730]), (0x319F, [0x4EBA]), (0x3200, [0x0028, 0x1100, 0x0029]),
  (0x3201, [0x0028, 0x1102, 0x0029]), (0x3202, [0x0028, 0x1103, 0x0029]),
  (0x3203, [0x0028, 0x1105, 0x0029]), (0x3204, [0x0028, 0x1106, 0x0029]),
  (0x3205, [0x0028, 0x1107, 0x0029]), (0x3206, [0x0028, 0x1109, 0x0029]),
  (0x3207, [0x0028, 0x110B, 0x0029]), (0x3208, [0x0028, 0x110C, 0x0029]),
  (0x3209, [0x0028, 0x110E, 0x0029]), (0x320A, [0x0028, 0x110F, 0x0029]),
  (0x320B, [0x0028, 0x1110, 0x0029]), (0x320C, [0x0028, 0x1111, 0x0029]),
  (0x320D, [0x0028, 0x1112, 0x0029]), (0x320E, [0x0028, 0x1100, 0x1161, 0x0029]),
  (0x320F, [0x0028, 0x1102, 0x1161, 0x0029]), (0x3210, [0x0028, 0x1103, 0x1161, 0x0029]),
  (0x3211, [0x0028, 0x1105, 0x1161, 0x0029]), (0x3212, [0x0028, 0x1106, 0x1161, 0x0029]),
  (0x3213, [0x0028, 0x1107, 0x1161, 0x0029]), (0x3214, [0x0028, 0x1109, 0x1161, 0x0029]),
  (0x3215, [0x0028, 0x110B, 0x1161, 0x0029]), (0x3216, [0x0028, 0x110C, 0x1161, 0x0029]),
  (0x3217, [0x0028, 0x110E, 0x1161, 0x0029]), (0x3218, [0x0028, 0x110F, 0x1161, 0x0029]),
  (0x3219, [0x0028, 0x1110, 0x1161, 0x0029]), (0x321A, [0x0028, 0x1111, 0x1161, 0x0029]),
  (0x321B, [0x0028, 0x1112, 0x1161, 0x0029]), (0x321C, [0x0028, 0x110C, 0x116E, 0x0029]),
  (0x321D, [0x0028, 0x110B, 0x1169, 0x110C, 0x1165, 0x11AB, 0x0029]),
  (0x321E, [0x0028, 0x110B, 0x1169, 0x1112, 0x116E, 0x0029]), (0x3220, [0x0028, 0x4E00, 0x0029]),
  (0x3221, [0x0028, 0x4E8C, 0x0029]), (0x3222, [0x0028, 0x4E09, 0x0029]),
  (0x3223, [0x0028, 0x56DB, 0x0029]), (0x3224, [0x0028, 0x4E94, 0x0029]),
  (0x3225, [0x0028, 0x516D, 0x0029]), (0x3226, [0x0028, 0x4E03, 0x0029]),
  (0x3227, [0x0028, 0x516B, 0x0029]), (0x3228, [0x0028, 0x4E5D, 0x0029]),
  (0x3229, [0x0028, 0x5341, 0x0029]), (0x322A, [0x0028, 0x6708, 0x0029]),
  (0x322B, [0x0028, 0x706B, 0x0029]), (0x322C, [0x0028, 0x6C34, 0x0029]),
  (0x322D, [0x0028, 0x6728, 0x0029]), (0x322E, [0x0028, 0x91D1, 0x0029]),
  (0x322F, [0x0028, 0x571F, 0x0029]), (0x3230, [0x0028, 0x65E5, 0x0029]),
  (0x3231, [0x0028, 0x682A, 0x0029]), (0x3232, [0x0028, 0x6709, 0x0029]),
  (0x3233, [0x0028, 0x793E, 0x0029]), (0x3234, [0x0028, 0x540D, 0x0029]),
  (0x3235, [0x0028, 0x7279, 0x0029]), (0x3236, [0x0028, 0x8CA1, 0x0029]),
  (0x3237, [0x0028, 0x795D, 0x0029]), (0x3238, [0x0028, 0x52B4, 0x0029]),
  (0x3239, [0x0028, 0x4EE3, 0x0029]), (0x323A, [0x0028, 0x547C, 0x0029]),
  (0x323B, [0x0028, 0x5B66, 0x0029]), (0x323C, [0x0028, 0x76E3, 0x0029]),
  (0x323D, [0x0028, 0x4F01, 0x0029]), (0x323E, [0x0028, 0x8CC7, 0x0029]),
  (0x323F, [0x0028, 0x5354, 0x0029]), (0x3240, [0x0028, 0x796D, 0x0029]),
  (0x3241, [0x0028, 0x4F11, 0x0029]), (0x3242, [0x0028, 0x81EA, 0x0029]),
  (0x3243, [0x0028, 0x81F3, 0x0029]), (0x3244, [0x554F]), (0x3245, [0x5E7C]), (0x3246, [0x6587]),
  (0x3247, [0x7B8F]), (0x3250, [0x0050, 0x0054, 0x0045]), (0x3251, [0x0032, 0x0031]),
  (0x3252, [0x0032, 0x0032]), (0x3253, [0x0032, 0x0033]), (0x3254, [0x0032, 0x0034]),
  (0x3255, [0x0032, 0x0035]), (0x3256, [0x0032, 0x0036]), (0x3257, [0x0032, 0x0037]),
  (0x3258, [0x0032, 0x0038]), (0x3259, [0x0032, 0x0039]), (0x325A, [0x0033, 0x0030]),
  (0x325B, [0x0033, 0x0031]), (0x325C, [0x0033, 0x0032]), (0x325D, [0x0033, 0x0033]),
  (0x325E, [0x0033, 0x0034]), (0x325F, [0x0033, 0x0035]), (0x3260, [0x1100]), (0x3261, [0x1102]),
  (0x3262, [0x1103]), (0x3266, [0x1109]), (0x3267, [0x110B]), (0x3268, [0x110C]),
  (0x326E, [0x1100, 0x1161]), (0x326F, [0x1102, 0x1161]), (0x3270, [0x1103, 0x1161]),
  (0x3271, [0x1105, 0x1161]), (0x3272, [0x1106, 0x1161]), (0x3273, [0x1107, 0x1161]),
  (0x3274, [0x1109, 0x1161]), (0x3275, [0x110B, 0x1161]), (0x3276, [0x110C, 0x1161]),
  (0x3277, [0x110E, 0x1161]), (0x3278, [0x110F, 0x1161]), (0x3279, [0x1110, 0x1161]),
  (0x327A, [0x1111, 0x1161]), (0x327B, [0x1112, 0x1161]),
  (0x327C, [0x110E, 0x1161, 0x11B7, 0x1100, 0x1169]), (0x327D, [0x110C, 0x116E, 0x110B, 0x1174]),
  (0x327E, [0x110B, 0x116E]), (0x3280, [0x4E00]), (0x3281, [0x4E8C]), (0x3282, [0x4E09]),
  (0x3283, [0x56DB]), (0x3284, [0x4E94]), (0x3285, [0x516D]), (0x3286, [0x4E03]),
  (0x3287, [0x516B]), (0x3288, [0x4E5D]), (0x3289, [0x5341]), (0x328A, [0x6708]),
  (0x328B, [0x706B]), (0x328C, [0x6C34]), (0x328D, [0x6728]), (0x328E, [0x91D1]),
  (0x328F, [0x571F]), (0x3290, [0x65E5]), (0x3291, [0x682A]), (0x3292, [0x6709]),
  (0x3293, [0x793E]), (0x3294, [0x540D]), (0x3295, [0x7279]), (0x3296, [0x8CA1]),
  (0x3297, [0x795D]), (0x3298, [0x52B4]), (0x3299, [0x79D8]), (0x329A, [0x7537]),
  (0x329B, [0x5973]), (0x329C, [0x9069]), (0x329D, [0x512A]), (0x329E, [0x5370]),
  (0x329F, [0x6CE8]), (0x32A0, [0x9805]), (0x32A1, [0x4F11]), (0x32A2, [0x5199]),
  (0x32A3, [0x6B63]), (0x32A4, [0x4E0A]), (0x32A5, [0x4E2D]), (0x32A6, [0x4E0B]),
  (0x32A7, [0x5DE6]), (0x32A8, [0x53F3]), (0x32A9, [0x533B]), (0x32AA, [0x5B97]),
  (0x32AB, [0x5B66]), (0x32AC, [0x76E3]), (0x32AD, [0x4F01]), (0x32AE, [0x8CC7]),
  (0x32AF, [0x5354]), (0x32B0, [0x591C]), (0x32B1, [0x0033, 0x0036]), (0x32B2, [0x0033, 0x0037]),
  (0x32B3, [0x0033, 0x0038]), (0x32B4, [0x0033, 0x0039]), (0x32B5, [0x0034, 0x0030]),
  (0x32B6, [0x0034, 0x0031]), (0x32B7, [0x0034, 0x0032]), (0x32B8, [0x0034, 0x0033]),
  (0x32B9, [0x0034, 0x0034]), (0x32BA, [0x0034, 0x0035]), (0x32BB, [0x0034, 0x0036]),
  (0x32BC, [0x0034, 0x0037]), (0x32BD, [0x0034, 0x0038]), (0x32BE, [0x0034, 0x0039]),
  (0x32BF, [0x0035, 0x0030]), (0x32C0, [0x0031, 0x6708]), (0x32C1, [0x0032, 0x6708]),
  (0x32C2, [0x0033, 0x6708]), (0x32C3, [0x0034, 0x6708]), (0x32C4, [0x0035, 0x6708]),
  (0x32C5, [0x0036, 0x6708]), (0x32C6, [0x0037, 0x6708]), (0x32C7, [0x0038, 0x6708]),
  (0x32C8, [0x0039, 0x6708]), (0x32C9, [0x0031, 0x0030, 0x6708]),
  (0x32CA, [0x0031, 0x0031, 0x6708]), (0x32CB, [0x0031, 0x0032, 0x6708]),
  (0x32CC, [0x0048, 0x0067]), (0x32CD, [0x0065, 0x0072, 0x0067]), (0x32CE, [0x0065, 0x0056]),
  (0x32CF, [0x004C, 0x0054, 0x0044]), (0x32D0, [0x30A2]), (0x32D1, [0x30A4]), (0x32D2, [0x30A6]),
  (0x32D3, [0x30A8]), (0x32D4, [0x30AA]), (0x32D5, [0x30AB]), (0x32D6, [0x30AD]),
  (0x32D7, [0x30AF]), (0x32D8, [0x30B1]), (0x32D9, [0x30B3]), (0x32DA, [0x30B5]),
  (0x32DB, [0x30B7]), (0x32DC, [0x30B9]), (0x32DD, [0x30BB]), (0x32DE, [0x30BD]),
  (0x32DF, [0x30BF]), (0x32E0, [0x30C1]), (0x32E1, [0x30C4]), (0x32E2, [0x30C6]),
  (0x32E3, [0x30C8]), (0x32EA, [0x30D2]), (0x32EB, [0x30D5]), (0x32EC, [0x30D8]),
  (0x32ED, [0x30DB]), (0x32F3, [0x30E4]), (0x32F4, [0x30E6]), (0x32FF, [0x4EE4, 0x548C]),
  (0x3300, [0x30A2, 0x30CF, 0x309A, 0x30FC, 0x30C8]), (0x3301, [0x30A2, 0x30EB, 0x30D5, 0x30A1]),
  (0x3302, [0x30A2, 0x30F3, 0x30D8, 0x309A, 0x30A2]), (0x3303, [0x30A2, 0x30FC, 0x30EB]),
  (0x3304, [0x30A4, 0x30CB, 0x30F3, 0x30AF, 0x3099]), (0x3305, [0x30A4, 0x30F3, 0x30C1]),
  (0x3306, [0x30A6, 0x30A9, 0x30F3]), (0x3307, [0x30A8, 0x30B9, 0x30AF, 0x30FC, 0x30C8, 0x3099]),
  (0x3308, [0x30A8, 0x30FC, 0x30AB, 0x30FC]), (0x3309, [0x30AA, 0x30F3, 0x30B9]),
  (0x330A, [0x30AA, 0x30FC, 0x30E0]), (0x330B, [0x30AB, 0x30A4, 0x30EA]),
  (0x330C, [0x30AB, 0x30E9, 0x30C3, 0x30C8]), (0x330D, [0x30AB, 0x30ED, 0x30EA, 0x30FC]),
  (0x330E, [0x30AB, 0x3099, 0x30ED, 0x30F3]), (0x330F, [0x30AB, 0x3099, 0x30F3, 0x30DE]),
  (0x3310, [0x30AD, 0x3099, 0x30AB, 0x3099]), (0x3311, [0x30AD, 0x3099, 0x30CB, 0x30FC]),
  (0x3312, [0x30AD, 0x30E5, 0x30EA, 0x30FC]),
  (0x3313, [0x30AD, 0x3099, 0x30EB, 0x30BF, 0x3099, 0x30FC]), (0x3314, [0x30AD, 0x30ED]),
  (0x3315, [0x30AD, 0x30ED, 0x30AF, 0x3099, 0x30E9, 0x30E0]),
  (0x3316, [0x30AD, 0x30ED, 0x30E1, 0x30FC, 0x30C8, 0x30EB]),
  (0x3317, [0x30AD, 0x30ED, 0x30EF, 0x30C3, 0x30C8]), (0x3318, [0x30AF, 0x3099, 0x30E9, 0x30E0]),
  (0x3319, [0x30AF, 0x3099, 0x30E9, 0x30E0, 0x30C8, 0x30F3]),
  (0x331A, [0x30AF, 0x30EB, 0x30BB, 0x3099, 0x30A4, 0x30ED]),
  (0x331B, [0x30AF, 0x30ED, 0x30FC, 0x30CD]), (0x331C, [0x30B1, 0x30FC, 0x30B9]),
  (0x331D, [0x30B3, 0x30EB, 0x30CA]), (0x331E, [0x30B3, 0x30FC, 0x30DB, 0x309A]),
  (0x331F, [0x30B5, 0x30A4, 0x30AF, 0x30EB]), (0x3320, [0x30B5, 0x30F3, 0x30C1, 0x30FC, 0x30E0]),
  (0x3321, [0x30B7, 0x30EA, 0x30F3, 0x30AF, 0x3099]), (0x3322, [0x30BB, 0x30F3, 0x30C1]),
  (0x3323, [0x30BB, 0x30F3, 0x30C8]), (0x3324, [0x30BF, 0x3099, 0x30FC, 0x30B9]),
  (0x3325, [0x30C6, 0x3099, 0x30B7]), (0x3326, [0x30C8, 0x3099, 0x30EB]),
  (0x3327, [0x30C8, 0x30F3]), (0x3328, [0x30CA, 0x30CE]), (0x3329, [0x30CE, 0x30C3, 0x30C8]),
  (0x332A, [0x30CF, 0x30A4, 0x30C4]), (0x332B, [0x30CF, 0x309A, 0x30FC, 0x30BB, 0x30F3, 0x30C8]),
  (0x332C, [0x30CF, 0x309A, 0x30FC, 0x30C4]), (0x332D, [0x30CF, 0x3099, 0x30FC, 0x30EC, 0x30EB]),
  (0x332E, [0x30D2, 0x309A, 0x30A2, 0x30B9, 0x30C8, 0x30EB]),
  (0x332F, [0x30D2, 0x309A, 0x30AF, 0x30EB]), (0x3330, [0x30D2, 0x309A, 0x30B3]),
  (0x3331, [0x30D2, 0x3099, 0x30EB]), (0x3332, [0x30D5, 0x30A1, 0x30E9, 0x30C3, 0x30C8, 0x3099]),
  (0x3333, [0x30D5, 0x30A3, 0x30FC, 0x30C8]),
  (0x3334, [0x30D5, 0x3099, 0x30C3, 0x30B7, 0x30A7, 0x30EB]), (0x3335, [0x30D5, 0x30E9, 0x30F3]),
  (0x3336, [0x30D8, 0x30AF, 0x30BF, 0x30FC, 0x30EB]), (0x3337, [0x30D8, 0x309A, 0x30BD]),
  (0x3338, [0x30D8, 0x309A, 0x30CB, 0x30D2]), (0x3339, [0x30D8, 0x30EB, 0x30C4]),
  (0x333A, [0x30D8, 0x309A, 0x30F3, 0x30B9]), (0x333B, [0x30D8, 0x309A, 0x30FC, 0x30B7, 0x3099]),
  (0x333C, [0x30D8, 0x3099, 0x30FC, 0x30BF]), (0x333D, [0x30DB, 0x309A, 0x30A4, 0x30F3, 0x30C8]),
  (0x333E, [0x30DB, 0x3099, 0x30EB, 0x30C8]), (0x333F, [0x30DB, 0x30F3]),
  (0x3340, [0x30DB, 0x309A, 0x30F3, 0x30C8, 0x3099]), (0x3341, [0x30DB, 0x30FC, 0x30EB]),
  (0x3342, [0x30DB, 0x30FC, 0x30F3]), (0x3343, [0x30DE, 0x30A4, 0x30AF, 0x30ED]),
  (0x3344, [0x30DE, 0x30A4, 0x30EB]), (0x3345, [0x30DE, 0x30C3, 0x30CF]),
  (0x3346, [0x30DE, 0x30EB, 0x30AF]), (0x3347, [0x30DE, 0x30F3, 0x30B7, 0x30E7, 0x30F3]),
  (0x3348, [0x30DF, 0x30AF, 0x30ED, 0x30F3]), (0x3349, [0x30DF, 0x30EA]),
  (0x334A, [0x30DF, 0x30EA, 0x30CF, 0x3099, 0x30FC, 0x30EB]), (0x334B, [0x30E1, 0x30AB, 0x3099]),
  (0x334C, [0x30E1, 0x30AB, 0x3099, 0x30C8, 0x30F3]), (0x334D, [0x30E1, 0x30FC, 0x30C8, 0x30EB]),
  (0x334E, [0x30E4, 0x30FC, 0x30C8, 0x3099]), (0x334F, [0x30E4, 0x30FC, 0x30EB]),
  (0x3350, [0x30E6, 0x30A2, 0x30F3]), (0x3351, [0x30EA, 0x30C3, 0x30C8, 0x30EB]),
  (0x3352, [0x30EA, 0x30E9]), (0x3353, [0x30EB, 0x30D2, 0x309A, 0x30FC]),
  (0x3354, [0x30EB, 0x30FC, 0x30D5, 0x3099, 0x30EB]), (0x3355, [0x30EC, 0x30E0]),
  (0x3356, [0x30EC, 0x30F3, 0x30C8, 0x30B1, 0x3099, 0x30F3]), (0x3357, [0x30EF, 0x30C3, 0x30C8]),
  (0x3358, [0x0030, 0x70B9]), (0x3359, [0x0031, 0x70B9]), (0x335A, [0x0032, 0x70B9]),
  (0x335B, [0x0033, 0x70B9]), (0x335C, [0x0034, 0x70B9]), (0x335D, [0x0035, 0x70B9]),
  (0x335E, [0x0036, 0x70B9]), (0x335F, [0x0037, 0x70B9]), (0x3360, [0x0038, 0x70B9]),
  (0x3361, [0x0039, 0x70B9]), (0x3362, [0x0031, 0x0030, 0x70B9]),
  (0x3363, [0x0031, 0x0031, 0x70B9]), (0x3364, [0x0031, 0x0032, 0x70B9]),
  (0x3365, [0x0031, 0x0033, 0x70B9]), (0x3366, [0x0031, 0x0034, 0x70B9]),
  (0x3367, [0x0031, 0x0035, 0x70B9]), (0x3368, [0x0031, 0x0036, 0x70B9]),
  (0x3369, [0x0031, 0x0037, 0x70B9]), (0x336A, [0x0031, 0x0038, 0x70B9]),
  (0x336B, [0x0031, 0x0039, 0x70B9]), (0x336C, [0x0032, 0x0030, 0x70B9]),
  (0x336D, [0x0032, 0x0031, 0x70B9]), (0x336E, [0x0032, 0x0032, 0x70B9]),
  (0x336F, [0x0032, 0x0033, 0x70B9]), (0x3370, [0x0032, 0x0034, 0x70B9]),
  (0x3371, [0x0068, 0x0050, 0x0061]), (0x3372, [0x0064, 0x0061]), (0x3373, [0x0041, 0x0055]),
  (0x3374, [0x0062, 0x0061, 0x0072]), (0x3375, [0x006F, 0x0056]), (0x3376, [0x0070, 0x0063]),
  (0x3377, [0x0064, 0x006D]), (0x3378, [0x0064, 0x006D, 0x0032]),
  (0x3379, [0x0064, 0x006D, 0x0033]), (0x337A, [0x0049, 0x0055]), (0x337B, [0x5E73, 0x6210]),
  (0x337C, [0x662D, 0x548C]), (0x337D, [0x5927, 0x6B63]), (0x337E, [0x660E, 0x6CBB]),
  (0x337F, [0x682A, 0x5F0F, 0x4F1A, 0x793E]), (0x3380, [0x0070, 0x0041]),
  (0x3381, [0x006E, 0x0041]), (0x3382, [0x03BC, 0x0041]), (0x3383, [0x006D, 0x0041]),
  (0x3384, [0x006B, 0x0041]), (0x3385, [0x004B, 0x0042]), (0x3386, [0x004D, 0x0042]),
  (0x3387, [0x0047, 0x0042]), (0x3388, [0x0063, 0x0061, 0x006C]),
  (0x3389, [0x006B, 0x0063, 0x0061, 0x006C]), (0x338A, [0x0070, 0x0046]),
  (0x338B, [0x006E, 0x0046]), (0x338C, [0x03BC, 0x0046]), (0x338D, [0x03BC, 0x0067]),
  (0x338E, [0x006D, 0x0067]), (0x338F, [0x006B, 0x0067]), (0x3390, [0x0048, 0x007A]),
  (0x3391, [0x006B, 0x0048, 0x007A]), (0x3392, [0x004D, 0x0048, 0x007A]),
  (0x3393, [0x0047, 0x0048, 0x007A]), (0x3394, [0x0054, 0x0048, 0x007A]),
  (0x3395, [0x03BC, 0x006C]), (0x3396, [0x006D, 0x006C]), (0x3397, [0x0064, 0x006C]),
  (0x3398, [0x006B, 0x006C]), (0x3399, [0x0066, 0x006D]), (0x339A, [0x006E, 0x006D]),
  (0x339B, [0x03BC, 0x006D]), (0x339C, [0x006D, 0x006D]), (0x339D, [0x0063, 0x006D]),
  (0x339E, [0x006B, 0x006D]), (0x339F, [0x006D, 0x006D, 0x0032]),
  (0x33A0, [0x0063, 0x006D, 0x0032]), (0x33A1, [0x006D, 0x0032]),
  (0x33A2, [0x006B, 0x006D, 0x0032]), (0x33A3, [0x006D, 0x006D, 0x0033]),
  (0x33A4, [0x0063, 0x006D, 0x0033]), (0x33A5, [0x006D, 0x0033]),
  (0x33A6, [0x006B, 0x006D, 0x0033]), (0x33A7, [0x006D, 0x2215, 0x0073]),
  (0x33A8, [0x006D, 0x2215, 0x0073, 0x0032]), (0x33A9, [0x0050, 0x0061]),
  (0x33AA, [0x006B, 0x0050, 0x0061]), (0x33AB, [0x004D, 0x0050, 0x0061]),
  (0x33AC, [0x0047, 0x0050, 0x0061]), (0x33AD, [0x0072, 0x0061, 0x0064]),
  (0x33AE, [0x0072, 0x0061, 0x0064, 0x2215, 0x0073]),
  (0x33AF, [0x0072, 0x0061, 0x0064, 0x2215, 0x0073, 0x0032]), (0x33B0, [0x0070, 0x0073]),
  (0x33B1, [0x006E, 0x0073]), (0x33B2, [0x03BC, 0x0073]), (0x33B3, [0x006D, 0x0073]),
  (0x33B4, [0x0070, 0x0056]), (0x33B5, [0x006E, 0x0056]), (0x33B6, [0x03BC, 0x0056]),
  (0x33B7, [0x006D, 0x0056]), (0x33B8, [0x006B, 0x0056]), (0x33B9, [0x004D, 0x0056]),
  (0x33BA, [0x0070, 0x0057]), (0x33BB, [0x006E, 0x0057]), (0x33BC, [0x03BC, 0x0057]),
  (0x33BD, [0x006D, 0x0057]), (0x33BE, [0x006B, 0x0057]), (0x33BF, [0x004D, 0x0057]),
  (0x33C0, [0x006B, 0x03A9]), (0x33C1, [0x004D, 0x03A9]),
  (0x33C2, [0x0061, 0x002E, 0x006D, 0x002E]), (0x33C3, [0x0042, 0x0071]),
  (0x33C4, [0x0063, 0x0063]), (0x33C5, [0x0063, 0x0064]),
  (0x33C6, [0x0043, 0x2215, 0x006B, 0x0067]), (0x33C7, [0x0043, 0x006F, 0x002E]),
  (0x33C8, [0x0064, 0x0042]), (0x33C9, [0x0047, 0x0079]), (0x33CA, [0x0068, 0x0061]),
  (0x33CB, [0x0048, 0x0050]), (0x33CC, [0x0069, 0x006E]), (0x33CD, [0x004B, 0x004B]),
  (0x33CE, [0x004B, 0x004D]), (0x33CF, [0x006B, 0x0074]), (0x33D0, [0x006C, 0x006D]),
  (0x33D1, [0x006C, 0x006E]), (0x33D2, [0x006C, 0x006F, 0x0067]), (0x33D3, [0x006C, 0x0078]),
  (0x33D4, [0x006D, 0x0062]), (0x33D5, [0x006D, 0x0069, 0x006C]),
  (0x33D6, [0x006D, 0x006F, 0x006C]), (0x33D7, [0x0050, 0x0048]),
  (0x33D8, [0x0070, 0x002E, 0x006D, 0x002E]), (0x33D9, [0x0050, 0x0050, 0x004D]),
  (0x33DA, [0x0050, 0x0052]), (0x33DB, [0x0073, 0x0072]), (0x33DC, [0x0053, 0x0076]),
  (0x33DD, [0x0057, 0x0062]), (0x33DE, [0x0056, 0x2215, 0x006D]),
  (0x33DF, [0x0041, 0x2215, 0x006D]), (0x33E0, [0x0031, 0x65E5]), (0x33E1, [0x0032, 0x65E5]),
  (0x33E2, [0x0033, 0x65E5]), (0x33E3, [0x0034, 0x65E5]), (0x33E4, [0x0035, 0x65E5]),
  (0x33E5, [0x0036, 0x65E5]), (0x33E6, [0x0037, 0x65E5]), (0x33E7, [0x0038, 0x65E5]),
  (0x33E8, [0x0039, 0x65E5]), (0x33E9, [0x0031, 0x0030, 0x65E5]),
  (0x33EA, [0x0031, 0x0031, 0x65E5]), (0x33EB, [0x0031, 0x0032, 0x65E5]),
  (0x33EC, [0x0031, 0x0033, 0x65E5]), (0x33ED, [0x0031, 0x0034, 0x65E5]),
  (0x33EE, [0x0031, 0x0035, 0x65E5]), (0x33EF, [0x0031, 0x0036, 0x65E5]),
  (0x33F0, [0x0031, 0x0037, 0x65E5]), (0x33F1, [0x0031, 0x0038, 0x65E5]),
  (0x33F2, [0x0031, 0x0039, 0x65E5]), (0x33F3, [0x0032, 0x0030, 0x65E5]),
  (0x33F4, [0x0032, 0x0031, 0x65E5]), (0x33F5, [0x0032, 0x0032, 0x65E5]),
  (0x33F6, [0x0032, 0x0033, 0x65E5]), (0x33F7, [0x0032, 0x0034, 0x65E5]),
  (0x33F8, [0x0032, 0x0035, 0x65E5]), (0x33F9, [0x0032, 0x0036, 0x65E5]),
  (0x33FA, [0x0032, 0x0037, 0x65E5]), (0x33FB, [0x0032, 0x0038, 0x65E5]),
  (0x33FC, [0x0032, 0x0039, 0x65E5]), (0x33FD, [0x0033, 0x0030, 0x65E5]),
  (0x33FE, [0x0033, 0x0031, 0x65E5]), (0x33FF, [0x0067, 0x0061, 0x006C]), (0xA69C, [0x044A]),
  (0xA69D, [0x044C]), (0xA770, [0xA76F]), (0xA7F2, [0x0043]), (0xA7F3, [0x0046]),
  (0xA7F4, [0x0051]), (0xA7F8, [0x0126]), (0xA7F9, [0x0153]), (0xAB5C, [0xA727]),
  (0xAB5D, [0xAB37]), (0xAB5E, [0x026B]), (0xAB5F, [0xAB52]), (0xAB69, [0x028D])]

/-- Single forms from U+F900 to U+FCFF. -/
def presentationForms : List (Nat × List Nat) := [
  (0xFB00, [0x0066, 0x0066]), (0xFB01, [0x0066, 0x0069]), (0xFB02, [0x0066, 0x006C]),
  (0xFB03, [0x0066, 0x0066, 0x0069]), (0xFB04, [0x0066, 0x0066, 0x006C]),
  (0xFB05, [0x0073, 0x0074]), (0xFB06, [0x0073, 0x0074]), (0xFB13, [0x0574, 0x0576]),
  (0xFB14, [0x0574, 0x0565]), (0xFB15, [0x0574, 0x056B]), (0xFB16, [0x057E, 0x0576]),
  (0xFB17, [0x0574, 0x056D]), (0xFB20, [0x05E2]), (0xFB21, [0x05D0]), (0xFB22, [0x05D3]),
  (0xFB23, [0x05D4]), (0xFB27, [0x05E8]), (0xFB28, [0x05EA]), (0xFB29, [0x002B]),
  (0xFB4F, [0x05D0, 0x05DC]), (0xFB50, [0x0671]), (0xFB51, [0x0671]), (0xFB52, [0x067B]),
  (0xFB53, [0x067B]), (0xFB54, [0x067B]), (0xFB55, [0x067B]), (0xFB56, [0x067E]),
  (0xFB57, [0x067E]), (0xFB58, [0x067E]), (0xFB59, [0x067E]), (0xFB5A, [0x0680]),
  (0xFB5B, [0x0680]), (0xFB5C, [0x0680]), (0xFB5D, [0x0680]), (0xFB5E, [0x067A]),
  (0xFB5F, [0x067A]), (0xFB60, [0x067A]), (0xFB61, [0x067A]), (0xFB62, [0x067F]),
  (0xFB63, [0x067F]), (0xFB64, [0x067F]), (0xFB65, [0x067F]), (0xFB66, [0x0679]),
  (0xFB67, [0x0679]), (0xFB68, [0x0679]), (0xFB69, [0x0679]), (0xFB6A, [0x06A4]),
  (0xFB6B, [0x06A4]), (0xFB6C, [0x06A4]), (0xFB6D, [0x06A4]), (0xFB6E, [0x06A6]),
  (0xFB6F, [0x06A6]), (0xFB70, [0x06A6]), (0xFB71, [0x06A6]), (0xFB72, [0x0684]),
  (0xFB73, [0x0684]), (0xFB74, [0x0684]), (0xFB75, [0x0684]), (0xFB76, [0x0683]),
  (0xFB77, [0x0683]), (0xFB78, [0x0683]), (0xFB79, [0x0683]), (0xFB7A, [0x0686]),
  (0xFB7B, [0x0686]), (0xFB7C, [0x0686]), (0xFB7D, [0x0686]), (0xFB7E, [0x0687]),
  (0xFB7F, [0x0687]), (0xFB80, [0x0687]), (0xFB81, [0x0687]), (0xFB82, [0x068D]),
  (0xFB83, [0x068D]), (0xFB84, [0x068C]), (0xFB85, [0x068C]), (0xFB86, [0x068E]),
  (0xFB87, [0x068E]), (0xFB88, [0x0688]), (0xFB89, [0x0688]), (0xFB8A, [0x0698]),
  (0xFB8B, [0x0698]), (0xFB8C, [0x0691]), (0xFB8D, [0x0691]), (0xFB8E, [0x06A9]),
  (0xFB8F, [0x06A9]), (0xFB90, [0x06A9]), (0xFB91, [0x06A9]), (0xFB92, [0x06AF]),
  (0xFB93, [0x06AF]), (0xFB94, [0x06AF]), (0xFB95, [0x06AF]), (0xFB96, [0x06B3]),
  (0xFB97, [0x06B3]), (0xFB98, [0x06B3]), (0xFB99, [0x06B3]), (0xFB9A, [0x06B1]),
  (0xFB9B, [0x06B1]), (0xFB9C, [0x06B1]), (0xFB9D, [0x06B1]), (0xFB9E, [0x06BA]),
  (0xFB9F, [0x06BA]), (0xFBA0, [0x06BB]), (0xFBA1, [0x06BB]), (0xFBA2, [0x06BB]),
  (0xFBA3, [0x06BB]), (0xFBA4, [0x06D5, 0x0654]), (0xFBA5, [0x06D5, 0x0654]), (0xFBA6, [0x06C1]),
  (0xFBA7, [0x06C1]), (0xFBA8, [0x06C1]), (0xFBA9, [0x06C1]), (0xFBAA, [0x06BE]),
  (0xFBAB, [0x06BE]), (0xFBAC, [0x06BE]), (0xFBAD, [0x06BE]), (0xFBAE, [0x06D2]),
  (0xFBAF, [0x06D2]), (0xFBB0, [0x06D2, 0x0654]), (0xFBB1, [0x06D2, 0x0654]), (0xFBD3, [0x06AD]),
  (0xFBD4, [0x06AD]), (0xFBD5, [0x06AD]), (0xFBD6, [0x06AD]), (0xFBD7, [0x06C7]),
  (0xFBD8, [0x06C7]), (0xFBD9, [0x06C6]), (0xFBDA, [0x06C6]), (0xFBDB, [0x06C8]),
  (0xFBDC, [0x06C8]), (0xFBDD, [0x06C7, 0x0674]), (0xFBDE, [0x06CB]), (0xFBDF, [0x06CB]),
  (0xFBE0, [0x06C5]), (0xFBE1, [0x06C5]), (0xFBE2, [0x06C9]), (0xFBE3, [0x06C9]),
  (0xFBE4, [0x06D0]), (0xFBE5, [0x06D0]), (0xFBE6, [0x06D0]), (0xFBE7, [0x06D0]),
  (0xFBE8, [0x0649]), (0xFBE9, [0x0649]), (0xFBEA, [0x064A, 0x0654, 0x0627]),
  (0xFBEB, [0x064A, 0x0654, 0x0627]), (0xFBEC, [0x064A, 0x0654, 0x06D5]),
  (0xFBED, [0x064A, 0x0654, 0x06D5]), (0xFBEE, [0x064A, 0x0654, 0x0648]),
  (0xFBEF, [0x064A, 0x0654, 0x0648]), (0xFBF0, [0x064A, 0x0654, 0x06C7]),
  (0xFBF1, [0x064A, 0x0654, 0x06C7]), (0xFBF2, [0x064A, 0x0654, 0x06C6]),
  (0xFBF3, [0x064A, 0x0654, 0x06C6]), (0xFBF4, [0x064A, 0x0654, 0x06C8]),
  (0xFBF5, [0x064A, 0x0654, 0x06C8]), (0xFBF6, [0x064A, 0x0654, 0x06D0]),
  (0xFBF7, [0x064A, 0x0654, 0x06D0]), (0xFBF8, [0x064A, 0x0654, 0x06D0]),
  (0xFBF9, [0x064A, 0x0654, 0x0649]), (0xFBFA, [0x064A, 0x0654, 0x0649]),
  (0xFBFB, [0x064A, 0x0654, 0x0649]), (0xFBFC, [0x06CC]), (0xFBFD, [0x06CC]), (0xFBFE, [0x06CC]),
  (0xFBFF, [0x06CC]), (0xFC00, [0x064A, 0x0654, 0x062C]), (0xFC01, [0x064A, 0x0654, 0x062D]),
  (0xFC02, [0x064A, 0x0654, 0x0645]), (0xFC03, [0x064A, 0x0654, 0x0649]),
  (0xFC04, [0x064A, 0x0654, 0x064A]), (0xFC05, [0x0628, 0x062C]), (0xFC06, [0x0628, 0x062D]),
  (0xFC07, [0x0628, 0x062E]), (0xFC08, [0x0628, 0x0645]), (0xFC09, [0x0628, 0x0649]),
  (0xFC0A, [0x0628, 0x064A]), (0xFC0B, [0x062A, 0x062C]), (0xFC0C, [0x062A, 0x062D]),
  (0xFC0D, [0x062A, 0x062E]), (0xFC0E, [0x062A, 0x0645]), (0xFC0F, [0x062A, 0x0649]),
  (0xFC10, [0x062A, 0x064A]), (0xFC11, [0x062B, 0x062C]), (0xFC12, [0x062B, 0x0645]),
  (0xFC13, [0x062B, 0x0649]), (0xFC14, [0x062B, 0x064A]), (0xFC15, [0x062C, 0x062D]),
  (0xFC16, [0x062C, 0x0645]), (0xFC17, [0x062D, 0x062C]), (0xFC18, [0x062D, 0x0645]),
  (0xFC19, [0x062E, 0x062C]), (0xFC1A, [0x062E, 0x062D]), (0xFC1B, [0x062E, 0x0645]),
  (0xFC1C, [0x0633, 0x062C]), (0xFC1D, [0x0633, 0x062D]), (0xFC1E, [0x0633, 0x062E]),
  (0xFC1F, [0x0633, 0x0645]), (0xFC20, [0x0635, 0x062D]), (0xFC21, [0x0635, 0x0645]),
  (0xFC22, [0x0636, 0x062C]), (0xFC23, [0x0636, 0x062D]), (0xFC24, [0x0636, 0x062E]),
  (0xFC25, [0x0636, 0x0645]), (0xFC26, [0x0637, 0x062D]), (0xFC27, [0x0637, 0x0645]),
  (0xFC28, [0x0638, 0x0645]), (0xFC29, [0x0639, 0x062C]), (0xFC2A, [0x0639, 0x0645]),
  (0xFC2B, [0x063A, 0x062C]), (0xFC2C, [0x063A, 0x0645]), (0xFC2D, [0x0641, 0x062C]),
  (0xFC2E, [0x0641, 0x062D]), (0xFC2F, [0x0641, 0x062E]), (0xFC30, [0x0641, 0x0645]),
  (0xFC31, [0x0641, 0x0649]), (0xFC32, [0x0641, 0x064A]), (0xFC33, [0x0642, 0x062D]),
  (0xFC34, [0x0642, 0x0645]), (0xFC35, [0x0642, 0x0649]), (0xFC36, [0x0642, 0x064A]),
  (0xFC37, [0x0643, 0x0627]), (0xFC38, [0x0643, 0x062C]), (0xFC39, [0x0643, 0x062D]),
  (0xFC3A, [0x0643, 0x062E]), (0xFC3B, [0x0643, 0x0644]), (0xFC3C, [0x0643, 0x0645]),
  (0xFC3D, [0x0643, 0x0649]), (0xFC3E, [0x0643, 0x064A]), (0xFC3F, [0x0644, 0x062C]),
  (0xFC40, [0x0644, 0x062D]), (0xFC41, [0x0644, 0x062E]), (0xFC42, [0x0644, 0x0645]),
  (0xFC43, [0x0644, 0x0649]), (0xFC44, [0x0644, 0x064A]), (0xFC45, [0x0645, 0x062C]),
  (0xFC46, [0x0645, 0x062D]), (0xFC47, [0x0645, 0x062E]), (0xFC48, [0x0645, 0x0645]),
  (0xFC49, [0x0645, 0x0649]), (0xFC4A, [0x0645, 0x064A]), (0xFC4B, [0x0646, 0x062C]),
  (0xFC4C, [0x0646, 0x062D]), (0xFC4D, [0x0646, 0x062E]), (0xFC4E, [0x0646, 0x0645]),
  (0xFC4F, [0x0646, 0x0649]), (0xFC50, [0x0646, 0x064A]), (0xFC51, [0x0647, 0x062C]),
  (0xFC52, [0x0647, 0x0645]), (0xFC53, [0x0647, 0x0649]), (0xFC54, [0x0647, 0x064A]),
  (0xFC55, [0x064A, 0x062C]), (0xFC56, [0x064A, 0x062D]), (0xFC57, [0x064A, 0x062E]),
  (0xFC58, [0x064A, 0x0645]), (0xFC59, [0x064A, 0x0649]), (0xFC5A, [0x064A, 0x064A]),
  (0xFC5B, [0x0630, 0x0670]), (0xFC5C, [0x0631, 0x0670]), (0xFC5D, [0x0649, 0x0670]),
  (0xFC5E, [0x0020, 0x064C, 0x0651]), (0xFC5F, [0x0020, 0x064D, 0x0651]),
  (0xFC60, [0x0020, 0x064E, 0x0651]), (0xFC61, [0x0020, 0x064F, 0x0651]),
  (0xFC62, [0x0020, 0x0650, 0x0651]), (0xFC63, [0x0020, 0x0651, 0x0670]),
  (0xFC64, [0x064A, 0x0654, 0x0631]), (0xFC65, [0x064A, 0x0654, 0x0632]),
  (0xFC66, [0x064A, 0x0654, 0x0645]), (0xFC67, [0x064A, 0x0654, 0x0646]),
  (0xFC68, [0x064A, 0x0654, 0x0649]), (0xFC69, [0x064A, 0x0654, 0x064A]),
  (0xFC6A, [0x0628, 0x0631]), (0xFC6B, [0x0628, 0x0632]), (0xFC6C, [0x0628, 0x0645]),
  (0xFC6D, [0x0628, 0x0646]), (0xFC6E, [0x0628, 0x0649]), (0xFC6F, [0x0628, 0x064A]),
  (0xFC70, [0x062A, 0x0631]), (0xFC71, [0x062A, 0x0632]), (0xFC72, [0x062A, 0x0645]),
  (0xFC73, [0x062A, 0x0646]), (0xFC74, [0x062A, 0x0649]), (0xFC75, [0x062A, 0x064A]),
  (0xFC76, [0x062B, 0x0631]), (0xFC77, [0x062B, 0x0632]), (0xFC78, [0x062B, 0x0645]),
  (0xFC79, [0x062B, 0x0646]), (0xFC7A, [0x062B, 0x0649]), (0xFC7B, [0x062B, 0x064A]),
  (0xFC7C, [0x0641, 0x0649]), (0xFC7D, [0x0641, 0x064A]), (0xFC7E, [0x0642, 0x0649]),
  (0xFC7F, [0x0642, 0x064A]), (0xFC80, [0x0643, 0x0627]), (0xFC81, [0x0643, 0x0644]),
  (0xFC82, [0x0643, 0x0645]), (0xFC83, [0x0643, 0x0649]), (0xFC84, [0x0643, 0x064A]),
  (0xFC85, [0x0644, 0x0645]), (0xFC86, [0x0644, 0x0649]), (0xFC87, [0x0644, 0x064A]),
  (0xFC88, [0x0645, 0x0627]), (0xFC89, [0x0645, 0x0645]), (0xFC8A, [0x0646, 0x0631]),
  (0xFC8B, [0x0646, 0x0632]), (0xFC8C, [0x0646, 0x0645]), (0xFC8D, [0x0646, 0x0646]),
  (0xFC8E, [0x0646, 0x0649]), (0xFC8F, [0x0646, 0x064A]), (0xFC90, [0x0649, 0x0670]),
  (0xFC91, [0x064A, 0x0631]), (0xFC92, [0x064A, 0x0632]), (0xFC93, [0x064A, 0x0645]),
  (0xFC94, [0x064A, 0x0646]), (0xFC95, [0x064A, 0x0649]), (0xFC96, [0x064A, 0x064A]),
  (0xFC97, [0x064A, 0x0654, 0x062C]), (0xFC98, [0x064A, 0x0654, 0x062D]),
  (0xFC99, [0x064A, 0x0654, 0x062E]), (0xFC9A, [0x064A, 0x0654, 0x0645]),
  (0xFC9B, [0x064A, 0x0654, 0x0647]), (0xFC9C, [0x0628, 0x062C]), (0xFC9D, [0x0628, 0x062D]),
  (0xFC9E, [0x0628, 0x062E]), (0xFC9F, [0x0628, 0x0645]), (0xFCA0, [0x0628, 0x0647]),
  (0xFCA1, [0x062A, 0x062C]), (0xFCA2, [0x062A, 0x062D]), (0xFCA3, [0x062A, 0x062E]),
  (0xFCA4, [0x062A, 0x0645]), (0xFCA5, [0x062A, 0x0647]), (0xFCA6, [0x062B, 0x0645]),
  (0xFCA7, [0x062C, 0x062D]), (0xFCA8, [0x062C, 0x0645]), (0xFCA9, [0x062D, 0x062C]),
  (0xFCAA, [0x062D, 0x0645]), (0xFCAB, [0x062E, 0x062C]), (0xFCAC, [0x062E, 0x0645]),
  (0xFCAD, [0x0633, 0x062C]), (0xFCAE, [0x0633, 0x062D]), (0xFCAF, [0x0633, 0x062E]),
  (0xFCB0, [0x0633, 0x0645]), (0xFCB1, [0x0635, 0x062D]), (0xFCB2, [0x0635, 0x062E]),
  (0xFCB3, [0x0635, 0x0645]), (0xFCB4, [0x0636, 0x062C]), (0xFCB5, [0x0636, 0x062D]),
  (0xFCB6, [0x0636, 0x062E]), (0xFCB7, [0x0636, 0x0645]), (0xFCB8, [0x0637, 0x062D]),
  (0xFCB9, [0x0638, 0x0645]), (0xFCBA, [0x0639, 0x062C]), (0xFCBB, [0x0639, 0x0645]),
  (0xFCBC, [0x063A, 0x062C]), (0xFCBD, [0x063A, 0x0645]), (0xFCBE, [0x0641, 0x062C]),
  (0xFCBF, [0x0641, 0x062D]), (0xFCC0, [0x0641, 0x062E]), (0xFCC1, [0x0641, 0x0645]),
  (0xFCC2, [0x0642, 0x062D]), (0xFCC3, [0x0642, 0x0645]), (0xFCC4, [0x0643, 0x062C]),
  (0xFCC5, [0x0643, 0x062D]), (0xFCC6, [0x0643, 0x062E]), (0xFCC7, [0x0643, 0x0644]),
  (0xFCC8, [0x0643, 0x0645]), (0xFCC9, [0x0644, 0x062C]), (0xFCCA, [0x0644, 0x062D]),
  (0xFCCB, [0x0644, 0x062E]), (0xFCCC, [0x0644, 0x0645]), (0xFCCD, [0x0644, 0x0647]),
  (0xFCCE, [0x0645, 0x062C]), (0xFCCF, [0x0645, 0x062D]), (0xFCD0, [0x0645, 0x062E]),
  (0xFCD1, [0x0645, 0x0645]), (0xFCD2, [0x0646, 0x062C]), (0xFCD3, [0x0646, 0x062D]),
  (0xFCD4, [0x0646, 0x062E]), (0xFCD5, [0x0646, 0x0645]), (0xFCD6, [0x0646, 0x0647]),
  (0xFCD7, [0x0647, 0x062C]), (0xFCD8, [0x0647, 0x0645]), (0xFCD9, [0x0647, 0x0670]),
  (0xFCDA, [0x064A, 0x062C]), (0xFCDB, [0x064A, 0x062D]), (0xFCDC, [0x064A, 0x062E]),
  (0xFCDD, [0x064A, 0x0645]), (0xFCDE, [0x064A, 0x0647]), (0xFCDF, [0x064A, 0x0654, 0x0645]),
  (0xFCE0, [0x064A, 0x0654, 0x0647]), (0xFCE1, [0x0628, 0x0645]), (0xFCE2, [0x0628, 0x0647]),
  (0xFCE3, [0x062A, 0x0645]), (0xFCE4, [0x062A, 0x0647]), (0xFCE5, [0x062B, 0x0645]),
  (0xFCE6, [0x062B, 0x0647]), (0xFCE7, [0x0633, 0x0645]), (0xFCE8, [0x0633, 0x0647]),
  (0xFCE9, [0x0634, 0x0645]), (0xFCEA, [0x0634, 0x0647]), (0xFCEB, [0x0643, 0x0644]),
  (0xFCEC, [0x0643, 0x0645]), (0xFCED, [0x0644, 0x0645]), (0xFCEE, [0x0646, 0x0645]),
  (0xFCEF, [0x0646, 0x0647]), (0xFCF0, [0x064A, 0x0645]), (0xFCF1, [0x064A, 0x0647]),
  (0xFCF2, [0x0640, 0x064E, 0x0651]), (0xFCF3, [0x0640, 0x064F, 0x0651]),
  (0xFCF4, [0x0640, 0x0650, 0x0651]), (0xFCF5, [0x0637, 0x0649]), (0xFCF6, [0x0637, 0x064A]),
  (0xFCF7, [0x0639, 0x0649]), (0xFCF8, [0x0639, 0x064A]), (0xFCF9, [0x063A, 0x0649]),
  (0xFCFA, [0x063A, 0x064A]), (0xFCFB, [0x0633, 0x0649]), (0xFCFC, [0x0633, 0x064A]),
  (0xFCFD, [0x0634, 0x0649]), (0xFCFE, [0x0634, 0x064A]), (0xFCFF, [0x062D, 0x0649])]

/-- Single forms from U+FD00 to U+FFFF. -/
def presentationLigatures : List (Nat × List Nat) := [
  (0xFD00, [0x062D, 0x064A]), (0xFD01, [0x062C, 0x0649]), (0xFD02, [0x062C, 0x064A]),
  (0xFD03, [0x062E, 0x0649]), (0xFD04, [0x062E, 0x064A]), (0xFD05, [0x0635, 0x0649]),
  (0xFD06, [0x0635, 0x064A]), (0xFD07, [0x0636, 0x0649]), (0xFD08, [0x0636, 0x064A]),
  (0xFD09, [0x0634, 0x062C]), (0xFD0A, [0x0634, 0x062D]), (0xFD0B, [0x0634, 0x062E]),
  (0xFD0C, [0x0634, 0x0645]), (0xFD0D, [0x0634, 0x0631]), (0xFD0E, [0x0633, 0x0631]),
  (0xFD0F, [0x0635, 0x0631]), (0xFD10, [0x0636, 0x0631]), (0xFD11, [0x0637, 0x0649]),
  (0xFD12, [0x0637, 0x064A]), (0xFD13, [0x0639, 0x0649]), (0xFD14, [0x0639, 0x064A]),
  (0xFD15, [0x063A, 0x0649]), (0xFD16, [0x063A, 0x064A]), (0xFD17, [0x0633, 0x0649]),
  (0xFD18, [0x0633, 0x064A]), (0xFD19, [0x0634, 0x0649]), (0xFD1A, [0x0634, 0x064A]),
  (0xFD1B, [0x062D, 0x0649]), (0xFD1C, [0x062D, 0x064A]), (0xFD1D, [0x062C, 0x0649]),
  (0xFD1E, [0x062C, 0x064A]), (0xFD1F, [0x062E, 0x0649]), (0xFD20, [0x062E, 0x064A]),
  (0xFD21, [0x0635, 0x0649]), (0xFD22, [0x0635, 0x064A]), (0xFD23, [0x0636, 0x0649]),
  (0xFD24, [0x0636, 0x064A]), (0xFD25, [0x0634, 0x062C]), (0xFD26, [0x0634, 0x062D]),
  (0xFD27, [0x0634, 0x062E]), (0xFD28, [0x0634, 0x0645]), (0xFD29, [0x0634, 0x0631]),
  (0xFD2A, [0x0633, 0x0631]), (0xFD2B, [0x0635, 0x0631]), (0xFD2C, [0x0636, 0x0631]),
  (0xFD2D, [0x0634, 0x062C]), (0xFD2E, [0x0634, 0x062D]), (0xFD2F, [0x0634, 0x062E]),
  (0xFD30, [0x0634, 0x0645]), (0xFD31, [0x0633, 0x0647]), (0xFD32, [0x0634, 0x0647]),
  (0xFD33, [0x0637, 0x0645]), (0xFD34, [0x0633, 0x062C]), (0xFD35, [0x0633, 0x062D]),
  (0xFD36, [0x0633, 0x062E]), (0xFD37, [0x0634, 0x062C]), (0xFD38, [0x0634, 0x062D]),
  (0xFD39, [0x0634, 0x062E]), (0xFD3A, [0x0637, 0x0645]), (0xFD3B, [0x0638, 0x0645]),
  (0xFD3C, [0x0627, 0x064B]), (0xFD3D, [0x0627, 0x064B]), (0xFD50, [0x062A, 0x062C, 0x0645]),
  (0xFD51, [0x062A, 0x062D, 0x062C]), (0xFD52, [0x062A, 0x062D, 0x062C]),
  (0xFD53, [0x062A, 0x062D, 0x0645]), (0xFD54, [0x062A, 0x062E, 0x0645]),
  (0xFD55, [0x062A, 0x0645, 0x062C]), (0xFD56, [0x062A, 0x0645, 0x062D]),
  (0xFD57, [0x062A, 0x0645, 0x062E]), (0xFD58, [0x062C, 0x0645, 0x062D]),
  (0xFD59, [0x062C, 0x0645, 0x062D]), (0xFD5A, [0x062D, 0x0645, 0x064A]),
  (0xFD5B, [0x062D, 0x0645, 0x0649]), (0xFD5C, [0x0633, 0x062D, 0x062C]),
  (0xFD5D, [0x0633, 0x062C, 0x062D]), (0xFD5E, [0x0633, 0x062C, 0x0649]),
  (0xFD5F, [0x0633, 0x0645, 0x062D]), (0xFD60, [0x0633, 0x0645, 0x062D]),
  (0xFD61, [0x0633, 0x0645, 0x062C]), (0xFD62, [0x0633, 0x0645, 0x0645]),
  (0xFD63, [0x0633, 0x0645, 0x0645]), (0xFD64, [0x0635, 0x062D, 0x062D]),
  (0xFD65, [0x0635, 0x062D, 0x062D]), (0xFD66, [0x0635, 0x0645, 0x0645]),
  (0xFD67, [0x0634, 0x062D, 0x0645]), (0xFD68, [0x0634, 0x062D, 0x0645]),
  (0xFD69, [0x0634, 0x062C, 0x064A]), (0xFD6A, [0x0634, 0x0645, 0x062E]),
  (0xFD6B, [0x0634, 0x0645, 0x062E]), (0xFD6C, [0x0634, 0x0645, 0x0645]),
  (0xFD6D, [0x0634, 0x0645, 0x0645]), (0xFD6E, [0x0636, 0x062D, 0x0649]),
  (0xFD6F, [0x0636, 0x062E, 0x0645]), (0xFD70, [0x0636, 0x062E, 0x0645]),
  (0xFD71, [0x0637, 0x0645, 0x062D]), (0xFD72, [0x0637, 0x0645, 0x062D]),
  (0xFD73, [0x0637, 0x0645, 0x0645]), (0xFD74, [0x0637, 0x0645, 0x064A]),
  (0xFD75, [0x0639, 0x062C, 0x0645]), (0xFD76, [0x0639, 0x0645, 0x0645]),
  (0xFD77, [0x0639, 0x0645, 0x0645]), (0xFD78, [0x0639, 0x0645, 0x0649]),
  (0xFD79, [0x063A, 0x0645, 0x0645]), (0xFD7A, [0x063A, 0x0645, 0x064A]),
  (0xFD7B, [0x063A, 0x0645, 0x0649]), (0xFD7C, [0x0641, 0x062E, 0x0645]),
  (0xFD7D, [0x0641, 0x062E, 0x0645]), (0xFD7E, [0x0642, 0x0645, 0x062D]),
  (0xFD7F, [0x0642, 0x0645, 0x0645]), (0xFD80, [0x0644, 0x062D, 0x0645]),
  (0xFD81, [0x0644, 0x062D, 0x064A]), (0xFD82, [0x0644, 0x062D, 0x0649]),
  (0xFD83, [0x0644, 0x062C, 0x062C]), (0xFD84, [0x0644, 0x062C, 0x062C]),
  (0xFD85, [0x0644, 0x062E, 0x0645]), (0xFD86, [0x0644, 0x062E, 0x0645]),
  (0xFD87, [0x0644, 0x0645, 0x062D]), (0xFD88, [0x0644, 0x0645, 0x062D]),
  (0xFD89, [0x0645, 0x062D, 0x062C]), (0xFD8A, [0x0645, 0x062D, 0x0645]),
  (0xFD8B, [0x0645, 0x062D, 0x064A]), (0xFD8C, [0x0645, 0x062C, 0x062D]),
  (0xFD8D, [0x0645, 0x062C, 0x0645]), (0xFD8E, [0x0645, 0x062E, 0x062C]),
  (0xFD8F, [0x0645, 0x062E, 0x0645]), (0xFD92, [0x0645, 0x062C, 0x062E]),
  (0xFD93, [0x0647, 0x0645, 0x062C]), (0xFD94, [0x0647, 0x0645, 0x0645]),
  (0xFD95, [0x0646, 0x062D, 0x0645]), (0xFD96, [0x0646, 0x062D, 0x0649]),
  (0xFD97, [0x0646, 0x062C, 0x0645]), (0xFD98, [0x0646, 0x062C, 0x0645]),
  (0xFD99, [0x0646, 0x062C, 0x0649]), (0xFD9A, [0x0646, 0x0645, 0x064A]),
  (0xFD9B, [0x0646, 0x0645, 0x0649]), (0xFD9C, [0x064A, 0x0645, 0x0645]),
  (0xFD9D, [0x064A, 0x0645, 0x0645]), (0xFD9E, [0x0628, 0x062E, 0x064A]),
  (0xFD9F, [0x062A, 0x062C, 0x064A]), (0xFDA0, [0x062A, 0x062C, 0x0649]),
  (0xFDA1, [0x062A, 0x062E, 0x064A]), (0xFDA2, [0x062A, 0x062E, 0x0649]),
  (0xFDA3, [0x062A, 0x0645, 0x064A]), (0xFDA4, [0x062A, 0x0645, 0x0649]),
  (0xFDA5, [0x062C, 0x0645, 0x064A]), (0xFDA6, [0x062C, 0x062D, 0x0649]),
  (0xFDA7, [0x062C, 0x0645, 0x0649]), (0xFDA8, [0x0633, 0x062E, 0x0649]),
  (0xFDA9, [0x0635, 0x062D, 0x064A]), (0xFDAA, [0x0634, 0x062D, 0x064A]),
  (0xFDAB, [0x0636, 0x062D, 0x064A]), (0xFDAC, [0x0644, 0x062C, 0x064A]),
  (0xFDAD, [0x0644, 0x0645, 0x064A]), (0xFDAE, [0x064A, 0x062D, 0x064A]),
  (0xFDAF, [0x064A, 0x062C, 0x064A]), (0xFDB0, [0x064A, 0x0645, 0x064A]),
  (0xFDB1, [0x0645, 0x0645, 0x064A]), (0xFDB2, [0x0642, 0x0645, 0x064A]),
  (0xFDB3, [0x0646, 0x062D, 0x064A]), (0xFDB4, [0x0642, 0x0645, 0x062D]),
  (0xFDB5, [0x0644, 0x062D, 0x0645]), (0xFDB6, [0x0639, 0x0645, 0x064A]),
  (0xFDB7, [0x0643, 0x0645, 0x064A]), (0xFDB8, [0x0646, 0x062C, 0x062D]),
  (0xFDB9, [0x0645, 0x062E, 0x064A]), (0xFDBA, [0x0644, 0x062C, 0x0645]),
  (0xFDBB, [0x0643, 0x0645, 0x0645]), (0xFDBC, [0x0644, 0x062C, 0x0645]),
  (0xFDBD, [0x0646, 0x062C, 0x062D]), (0xFDBE, [0x062C, 0x062D, 0x064A]),
  (0xFDBF, [0x062D, 0x062C, 0x064A]), (0xFDC0, [0x0645, 0x062C, 0x064A]),
  (0xFDC1, [0x0641, 0x0645, 0x064A]), (0xFDC2, [0x0628, 0x062D, 0x064A]),
  (0xFDC3, [0x0643, 0x0645, 0x0645]), (0xFDC4, [0x0639, 0x062C, 0x0645]),
  (0xFDC5, [0x0635, 0x0645, 0x0645]), (0xFDC6, [0x0633, 0x062E, 0x064A]),
  (0xFDC7, [0x0646, 0x062C, 0x064A]), (0xFDF0, [0x0635, 0x0644, 0x06D2]),
  (0xFDF1, [0x0642, 0x0644, 0x06D2]), (0xFDF2, [0x0627, 0x0644, 0x0644, 0x0647]),
  (0xFDF3, [0x0627, 0x0643, 0x0628, 0x0631]), (0xFDF4, [0x0645, 0x062D, 0x0645, 0x062F]),
  (0xFDF5, [0x0635, 0x0644, 0x0639, 0x0645]), (0xFDF6, [0x0631, 0x0633, 0x0648, 0x0644]),
  (0xFDF7, [0x0639, 0x0644, 0x064A, 0x0647]), (0xFDF8, [0x0648, 0x0633, 0x0644, 0x0645]),
  (0xFDF9, [0x0635, 0x0644, 0x0649]),
  (0xFDFA, [0x0635, 0x0644, 0x0649, 0x0020, 0x0627, 0x0644, 0x0644, 0x0647, 0x0020, 0x0639,
    0x0644, 0x064A, 0x0647, 0x0020, 0x0648, 0x0633, 0x0644, 0x0645]),
  (0xFDFB, [0x062C, 0x0644, 0x0020, 0x062C, 0x0644, 0x0627, 0x0644, 0x0647]),
  (0xFDFC, [0x0631, 0x06CC, 0x0627, 0x0644]), (0xFE10, [0x002C]), (0xFE11, [0x3001]),
  (0xFE12, [0x3002]), (0xFE13, [0x003A]), (0xFE14, [0x003B]), (0xFE15, [0x0021]),
  (0xFE16, [0x003F]), (0xFE17, [0x3016]), (0xFE18, [0x3017]), (0xFE19, [0x002E, 0x002E, 0x002E]),
  (0xFE30, [0x002E, 0x002E]), (0xFE31, [0x2014]), (0xFE32, [0x2013]), (0xFE33, [0x005F]),
  (0xFE34, [0x005F]), (0xFE35, [0x0028]), (0xFE36, [0x0029]), (0xFE37, [0x007B]),
  (0xFE38, [0x007D]), (0xFE39, [0x3014]), (0xFE3A, [0x3015]), (0xFE3B, [0x3010]),
  (0xFE3C, [0x3011]), (0xFE3D, [0x300A]), (0xFE3E, [0x300B]), (0xFE3F, [0x3008]),
  (0xFE40, [0x3009]), (0xFE47, [0x005B]), (0xFE48, [0x005D]), (0xFE49, [0x0020, 0x0305]),
  (0xFE4A, [0x0020, 0x0305]), (0xFE4B, [0x0020, 0x0305]), (0xFE4C, [0x0020, 0x0305]),
  (0xFE4D, [0x005F]), (0xFE4E, [0x005F]), (0xFE4F, [0x005F]), (0xFE50, [0x002C]),
  (0xFE51, [0x3001]), (0xFE52, [0x002E]), (0xFE54, [0x003B]), (0xFE55, [0x003A]),
  (0xFE56, [0x003F]), (0xFE57, [0x0021]), (0xFE58, [0x2014]), (0xFE59, [0x0028]),
  (0xFE5A, [0x0029]), (0xFE5B, [0x007B]), (0xFE5C, [0x007D]), (0xFE5D, [0x3014]),
  (0xFE5E, [0x3015]), (0xFE5F, [0x0023]), (0xFE60, [0x0026]), (0xFE61, [0x002A]),
  (0xFE62, [0x002B]), (0xFE63, [0x002D]), (0xFE64, [0x003C]), (0xFE65, [0x003E]),
  (0xFE66, [0x003D]), (0xFE68, [0x005C]), (0xFE69, [0x0024]), (0xFE6A, [0x0025]),
  (0xFE6B, [0x0040]), (0xFE70, [0x0020, 0x064B]), (0xFE71, [0x0640, 0x064B]),
  (0xFE72, [0x0020, 0x064C]), (0xFE74, [0x0020, 0x064D]), (0xFE76, [0x0020, 0x064E]),
  (0xFE77, [0x0640, 0x064E]), (0xFE78, [0x0020, 0x064F]), (0xFE79, [0x0640, 0x064F]),
  (0xFE7A, [0x0020, 0x0650]), (0xFE7B, [0x0640, 0x0650]), (0xFE7C, [0x0020, 0x0651]),
  (0xFE7D, [0x0640, 0x0651]), (0xFE7E, [0x0020, 0x0652]), (0xFE7F, [0x0640, 0x0652]),
  (0xFE80, [0x0621]), (0xFE81, [0x0627, 0x0653]), (0xFE82, [0x0627, 0x0653]),
  (0xFE83, [0x0627, 0x0654]), (0xFE84, [0x0627, 0x0654]), (0xFE85, [0x0648, 0x0654]),
  (0xFE86, [0x0648, 0x0654]), (0xFE87, [0x0627, 0x0655]), (0xFE88, [0x0627, 0x0655]),
  (0xFE89, [0x064A, 0x0654]), (0xFE8A, [0x064A, 0x0654]), (0xFE8B, [0x064A, 0x0654]),
  (0xFE8C, [0x064A, 0x0654]), (0xFE8D, [0x0627]), (0xFE8E, [0x0627]), (0xFE8F, [0x0628]),
  (0xFE90, [0x0628]), (0xFE91, [0x0628]), (0xFE92, [0x0628]), (0xFE93, [0x0629]),
  (0xFE94, [0x0629]), (0xFE95, [0x062A]), (0xFE96, [0x062A]), (0xFE97, [0x062A]),
  (0xFE98, [0x062A]), (0xFE99, [0x062B]), (0xFE9A, [0x062B]), (0xFE9B, [0x062B]),
  (0xFE9C, [0x062B]), (0xFE9D, [0x062C]), (0xFE9E, [0x062C]), (0xFE9F, [0x062C]),
  (0xFEA0, [0x062C]), (0xFEA1, [0x062D]), (0xFEA2, [0x062D]), (0xFEA3, [0x062D]),
  (0xFEA4, [0x062D]), (0xFEA5, [0x062E]), (0xFEA6, [0x062E]), (0xFEA7, [0x062E]),
  (0xFEA8, [0x062E]), (0xFEA9, [0x062F]), (0xFEAA, [0x062F]), (0xFEAB, [0x0630]),
  (0xFEAC, [0x0630]), (0xFEAD, [0x0631]), (0xFEAE, [0x0631]), (0xFEAF, [0x0632]),
  (0xFEB0, [0x0632]), (0xFEB1, [0x0633]), (0xFEB2, [0x0633]), (0xFEB3, [0x0633]),
  (0xFEB4, [0x0633]), (0xFEB5, [0x0634]), (0xFEB6, [0x0634]), (0xFEB7, [0x0634]),
  (0xFEB8, [0x0634]), (0xFEB9, [0x0635]), (0xFEBA, [0x0635]), (0xFEBB, [0x0635]),
  (0xFEBC, [0x0635]), (0xFEBD, [0x0636]), (0xFEBE, [0x0636]), (0xFEBF, [0x0636]),
  (0xFEC0, [0x0636]), (0xFEC1, [0x0637]), (0xFEC2, [0x0637]), (0xFEC3, [0x0637]),
  (0xFEC4, [0x0637]), (0xFEC5, [0x0638]), (0xFEC6, [0x0638]), (0xFEC7, [0x0638]),
  (0xFEC8, [0x0638]), (0xFEC9, [0x0639]), (0xFECA, [0x0639]), (0xFECB, [0x0639]),
  (0xFECC, [0x0639]), (0xFECD, [0x063A]), (0xFECE, [0x063A]), (0xFECF, [0x063A]),
  (0xFED0, [0x063A]), (0xFED1, [0x0641]), (0xFED2, [0x0641]), (0xFED3, [0x0641]),
  (0xFED4, [0x0641]), (0xFED5, [0x0642]), (0xFED6, [0x0642]), (0xFED7, [0x0642]),
  (0xFED8, [0x0642]), (0xFED9, [0x0643]), (0xFEDA, [0x0643]), (0xFEDB, [0x0643]),
  (0xFEDC, [0x0643]), (0xFEDD, [0x0644]), (0xFEDE, [0x0644]), (0xFEDF, [0x0644]),
  (0xFEE0, [0x0644]), (0xFEE1, [0x0645]), (0xFEE2, [0x0645]), (0xFEE3, [0x0645]),
  (0xFEE4, [0x0645]), (0xFEE5, [0x0646]), (0xFEE6, [0x0646]), (0xFEE7, [0x0646]),
  (0xFEE8, [0x0646]), (0xFEE9, [0x0647]), (0xFEEA, [0x0647]), (0xFEEB, [0x0647]),
  (0xFEEC, [0x0647]), (0xFEED, [0x0648]), (0xFEEE, [0x0648]), (0xFEEF, [0x0649]),
  (0xFEF0, [0x0649]), (0xFEF1, [0x064A]), (0xFEF2, [0x064A]), (0xFEF3, [0x064A]),
  (0xFEF4, [0x064A]), (0xFEF5, [0x0644, 0x0627, 0x0653]), (0xFEF6, [0x0644, 0x0627, 0x0653]),
  (0xFEF7, [0x0644, 0x0627, 0x0654]), (0xFEF8, [0x0644, 0x0627, 0x0654]),
  (0xFEF9, [0x0644, 0x0627, 0x0655]), (0xFEFA, [0x0644, 0x0627, 0x0655]),
  (0xFEFB, [0x0644, 0x0627]), (0xFEFC, [0x0644, 0x0627]), (0xFF5F, [0x2985]), (0xFF60, [0x2986]),
  (0xFF61, [0x3002]), (0xFF62, [0x300C]), (0xFF63, [0x300D]), (0xFF64, [0x3001]),
  (0xFF65, [0x30FB]), (0xFF66, [0x30F2]), (0xFF67, [0x30A1]), (0xFF68, [0x30A3]),
  (0xFF69, [0x30A5]), (0xFF6A, [0x30A7]), (0xFF6B, [0x30A9]), (0xFF6C, [0x30E3]),
  (0xFF6D, [0x30E5]), (0xFF6E, [0x30E7]), (0xFF6F, [0x30C3]), (0xFF70, [0x30FC]),
  (0xFF71, [0x30A2]), (0xFF72, [0x30A4]), (0xFF73, [0x30A6]), (0xFF74, [0x30A8]),
  (0xFF75, [0x30AA]), (0xFF76, [0x30AB]), (0xFF77, [0x30AD]), (0xFF78, [0x30AF]),
  (0xFF79, [0x30B1]), (0xFF7A, [0x30B3]), (0xFF7B, [0x30B5]), (0xFF7C, [0x30B7]),
  (0xFF7D, [0x30B9]), (0xFF7E, [0x30BB]), (0xFF7F, [0x30BD]), (0xFF80, [0x30BF]),
  (0xFF81, [0x30C1]), (0xFF82, [0x30C4]), (0xFF83, [0x30C6]), (0xFF84, [0x30C8]),
  (0xFF8B, [0x30D2]), (0xFF8C, [0x30D5]), (0xFF8D, [0x30D8]), (0xFF8E, [0x30DB]),
  (0xFF94, [0x30E4]), (0xFF95, [0x30E6]), (0xFF9C, [0x30EF]), (0xFF9D, [0x30F3]),
  (0xFF9E, [0x3099]), (0xFF9F, [0x309A]), (0xFFA0, [0x1160]), (0xFFA1, [0x1100]),
  (0xFFA2, [0x1101]), (0xFFA3, [0x11AA]), (0xFFA4, [0x1102]), (0xFFA5, [0x11AC]),
  (0xFFA6, [0x11AD]), (0xFFB0, [0x111A]), (0xFFB4, [0x1121]), (0xFFE0, [0x00A2]),
  (0xFFE1, [0x00A3]), (0xFFE2, [0x00AC]), (0xFFE3, [0x0020, 0x0304]), (0xFFE4, [0x00A6]),
  (0xFFE5, [0x00A5]), (0xFFE6, [0x20A9]), (0xFFE8, [0x2502]), (0xFFED, [0x25A0]),
  (0xFFEE, [0x25CB])]

/-- Single forms from U+10000 on. -/
def compatibleSymbols : List (Nat × List Nat) := [
  (0x10781, [0x02D0]), (0x10782, [0x02D1]), (0x10783, [0x00E6]), (0x10784, [0x0299]),
  (0x10785, [0x0253]), (0x10787, [0x02A3]), (0x10788, [0xAB66]), (0x10789, [0x02A5]),
  (0x1078A, [0x02A4]), (0x1078B, [0x0256]), (0x1078C, [0x0257]), (0x1078D, [0x1D91]),
  (0x1078E, [0x0258]), (0x1078F, [0x025E]), (0x10790, [0x02A9]), (0x10791, [0x0264]),
  (0x10792, [0x0262]), (0x10793, [0x0260]), (0x10794, [0x029B]), (0x10795, [0x0127]),
  (0x10796, [0x029C]), (0x10797, [0x0267]), (0x10798, [0x0284]), (0x10799, [0x02AA]),
  (0x1079A, [0x02AB]), (0x1079B, [0x026C]), (0x1079C, [0x1DF04]), (0x1079D, [0xA78E]),
  (0x1079E, [0x026E]), (0x1079F, [0x1DF05]), (0x107A0, [0x028E]), (0x107A1, [0x1DF06]),
  (0x107A2, [0x00F8]), (0x107A3, [0x0276]), (0x107A4, [0x0277]), (0x107A5, [0x0071]),
  (0x107A6, [0x027A]), (0x107A7, [0x1DF08]), (0x107A8, [0x027D]), (0x107A9, [0x027E]),
  (0x107AA, [0x0280]), (0x107AB, [0x02A8]), (0x107AC, [0x02A6]), (0x107AD, [0xAB67]),
  (0x107AE, [0x02A7]), (0x107AF, [0x0288]), (0x107B0, [0x2C71]), (0x107B2, [0x028F]),
  (0x107B3, [0x02A1]), (0x107B4, [0x02A2]), (0x107B5, [0x0298]), (0x107B9, [0x1DF0A]),
  (0x107BA, [0x1DF1E]), (0x1D49C, [0x0041]), (0x1D49E, [0x0043]), (0x1D49F, [0x0044]),
  (0x1D4A2, [0x0047]), (0x1D4A5, [0x004A]), (0x1D4A6, [0x004B]), (0x1D4BB, [0x0066]),
  (0x1D504, [0x0041]), (0x1D505, [0x0042]), (0x1D538, [0x0041]), (0x1D539, [0x0042]),
  (0x1D546, [0x004F]), (0x1D6A4, [0x0131]), (0x1D6A5, [0x0237]), (0x1D6B9, [0x0398]),
  (0x1D6C1, [0x2207]), (0x1D6DB, [0x2202]), (0x1D6DC, [0x03B5]), (0x1D6DD, [0x03B8]),
  (0x1D6DE, [0x03BA]), (0x1D6DF, [0x03C6]), (0x1D6E0, [0x03C1]), (0x1D6E1, [0x03C0]),
  (0x1D6F3, [0x0398]), (0x1D6FB, [0x2207]), (0x1D715, [0x2202]), (0x1D716, [0x03B5]),
  (0x1D717, [0x03B8]), (0x1D718, [0x03BA]), (0x1D719, [0x03C6]), (0x1D71A, [0x03C1]),
  (0x1D71B, [0x03C0]), (0x1D72D, [0x0398]), (0x1D735, [0x2207]), (0x1D74F, [0x2202]),
  (0x1D750, [0x03B5]), (0x1D751, [0x03B8]), (0x1D752, [0x03BA]), (0x1D753, [0x03C6]),
  (0x1D754, [0x03C1]), (0x1D755, [0x03C0]), (0x1D767, [0x0398]), (0x1D76F, [0x2207]),
  (0x1D789, [0x2202]), (0x1D78A, [0x03B5]), (0x1D78B, [0x03B8]), (0x1D78C, [0x03BA]),
  (0x1D78D, [0x03C6]), (0x1D78E, [0x03C1]), (0x1D78F, [0x03C0]), (0x1D7A1, [0x0398]),
  (0x1D7A9, [0x2207]), (0x1D7C3, [0x2202]), (0x1D7C4, [0x03B5]), (0x1D7C5, [0x03B8]),
  (0x1D7C6, [0x03BA]), (0x1D7C7, [0x03C6]), (0x1D7C8, [0x03C1]), (0x1D7C9, [0x03C0]),
  (0x1D7CA, [0x03DC]), (0x1D7CB, [0x03DD]), (0x1EE00, [0x0627]), (0x1EE01, [0x0628]),
  (0x1EE02, [0x062C]), (0x1EE03, [0x062F]), (0x1EE05, [0x0648]), (0x1EE06, [0x0632]),
  (0x1EE07, [0x062D]), (0x1EE08, [0x0637]), (0x1EE09, [0x064A]), (0x1EE0E, [0x0633]),
  (0x1EE0F, [0x0639]), (0x1EE10, [0x0641]), (0x1EE11, [0x0635]), (0x1EE12, [0x0642]),
  (0x1EE13, [0x0631]), (0x1EE14, [0x0634]), (0x1EE15, [0x062A]), (0x1EE16, [0x062B]),
  (0x1EE17, [0x062E]), (0x1EE18, [0x0630]), (0x1EE19, [0x0636]), (0x1EE1A, [0x0638]),
  (0x1EE1B, [0x063A]), (0x1EE1C, [0x066E]), (0x1EE1D, [0x06BA]), (0x1EE1E, [0x06A1]),
  (0x1EE1F, [0x066F]), (0x1EE21, [0x0628]), (0x1EE22, [0x062C]), (0x1EE24, [0x0647]),
  (0x1EE27, [0x062D]), (0x1EE29, [0x064A]), (0x1EE2E, [0x0633]), (0x1EE2F, [0x0639]),
  (0x1EE30, [0x0641]), (0x1EE31, [0x0635]), (0x1EE32, [0x0642]), (0x1EE34, [0x0634]),
  (0x1EE35, [0x062A]), (0x1EE36, [0x062B]), (0x1EE37, [0x062E]), (0x1EE39, [0x0636]),
  (0x1EE3B, [0x063A]), (0x1EE42, [0x062C]), (0x1EE47, [0x062D]), (0x1EE49, [0x064A]),
  (0x1EE4B, [0x0644]), (0x1EE4D, [0x0646]), (0x1EE4E, [0x0633]), (0x1EE4F, [0x0639]),
  (0x1EE51, [0x0635]), (0x1EE52, [0x0642]), (0x1EE54, [0x0634]), (0x1EE57, [0x062E]),
  (0x1EE59, [0x0636]), (0x1EE5B, [0x063A]), (0x1EE5D, [0x06BA]), (0x1EE5F, [0x066F]),
  (0x1EE61, [0x0628]), (0x1EE62, [0x062C]), (0x1EE64, [0x0647]), (0x1EE67, [0x062D]),
  (0x1EE68, [0x0637]), (0x1EE69, [0x064A]), (0x1EE6A, [0x0643]), (0x1EE6C, [0x0645]),
  (0x1EE6D, [0x0646]), (0x1EE6E, [0x0633]), (0x1EE6F, [0x0639]), (0x1EE70, [0x0641]),
  (0x1EE71, [0x0635]), (0x1EE72, [0x0642]), (0x1EE74, [0x0634]), (0x1EE75, [0x062A]),
  (0x1EE76, [0x062B]), (0x1EE77, [0x062E]), (0x1EE79, [0x0636]), (0x1EE7A, [0x0638]),
  (0x1EE7B, [0x063A]), (0x1EE7C, [0x066E]), (0x1EE7E, [0x06A1]), (0x1EE80, [0x0627]),
  (0x1EE81, [0x0628]), (0x1EE82, [0x062C]), (0x1EE83, [0x062F]), (0x1EE84, [0x0647]),
  (0x1EE85, [0x0648]), (0x1EE86, [0x0632]), (0x1EE87, [0x062D]), (0x1EE88, [0x0637]),
  (0x1EE89, [0x064A]), (0x1EE8E, [0x0633]), (0x1EE8F, [0x0639]), (0x1EE90, [0x0641]),
  (0x1EE91, [0x0635]), (0x1EE92, [0x0642]), (0x1EE93, [0x0631]), (0x1EE94, [0x0634]),
  (0x1EE95, [0x062A]), (0x1EE96, [0x062B]), (0x1EE97, [0x062E]), (0x1EE98, [0x0630]),
  (0x1EE99, [0x0636]), (0x1EE9A, [0x0638]), (0x1EE9B, [0x063A]), (0x1EEA1, [0x0628]),
  (0x1EEA2, [0x062C]), (0x1EEA3, [0x062F]), (0x1EEA5, [0x0648]), (0x1EEA6, [0x0632]),
  (0x1EEA7, [0x062D]), (0x1EEA8, [0x0637]), (0x1EEA9, [0x064A]), (0x1EEAE, [0x0633]),
  (0x1EEAF, [0x0639]), (0x1EEB0, [0x0641]), (0x1EEB1, [0x0635]), (0x1EEB2, [0x0642]),
  (0x1EEB3, [0x0631]), (0x1EEB4, [0x0634]), (0x1EEB5, [0x062A]), (0x1EEB6, [0x062B]),
  (0x1EEB7, [0x062E]), (0x1EEB8, [0x0630]), (0x1EEB9, [0x0636]), (0x1EEBA, [0x0638]),
  (0x1EEBB, [0x063A]), (0x1F100, [0x0030, 0x002E]), (0x1F101, [0x0030, 0x002C]),
  (0x1F102, [0x0031, 0x002C]), (0x1F103, [0x0032, 0x002C]), (0x1F104, [0x0033, 0x002C]),
  (0x1F105, [0x0034, 0x002C]), (0x1F106, [0x0035, 0x002C]), (0x1F107, [0x0036, 0x002C]),
  (0x1F108, [0x0037, 0x002C]), (0x1F109, [0x0038, 0x002C]), (0x1F10A, [0x0039, 0x002C]),
  (0x1F110, [0x0028, 0x0041, 0x0029]), (0x1F111, [0x0028, 0x0042, 0x0029]),
  (0x1F112, [0x0028, 0x0043, 0x0029]), (0x1F113, [0x0028, 0x0044, 0x0029]),
  (0x1F114, [0x0028, 0x0045, 0x0029]), (0x1F115, [0x0028, 0x0046, 0x0029]),
  (0x1F116, [0x0028, 0x0047, 0x0029]), (0x1F117, [0x0028, 0x0048, 0x0029]),
  (0x1F118, [0x0028, 0x0049, 0x0029]), (0x1F119, [0x0028, 0x004A, 0x0029]),
  (0x1F11A, [0x0028, 0x004B, 0x0029]), (0x1F11B, [0x0028, 0x004C, 0x0029]),
  (0x1F11C, [0x0028, 0x004D, 0x0029]), (0x1F11D, [0x0028, 0x004E, 0x0029]),
  (0x1F11E, [0x0028, 0x004F, 0x0029]), (0x1F11F, [0x0028, 0x0050, 0x0029]),
  (0x1F120, [0x0028, 0x0051, 0x0029]), (0x1F121, [0x0028, 0x0052, 0x0029]),
  (0x1F122, [0x0028, 0x0053, 0x0029]), (0x1F123, [0x0028, 0x0054, 0x0029]),
  (0x1F124, [0x0028, 0x0055, 0x0029]), (0x1F125, [0x0028, 0x0056, 0x0029]),
  (0x1F126, [0x0028, 0x0057, 0x0029]), (0x1F127, [0x0028, 0x0058, 0x0029]),
  (0x1F128, [0x0028, 0x0059, 0x0029]), (0x1F129, [0x0028, 0x005A, 0x0029]),
  (0x1F12A, [0x3014, 0x0053, 0x3015]), (0x1F12B, [0x0043]), (0x1F12C, [0x0052]),
  (0x1F12D, [0x0043, 0x0044]), (0x1F12E, [0x0057, 0x005A]), (0x1F14A, [0x0048, 0x0056]),
  (0x1F14B, [0x004D, 0x0056]), (0x1F14C, [0x0053, 0x0044]), (0x1F14D, [0x0053, 0x0053]),
  (0x1F14E, [0x0050, 0x0050, 0x0056]), (0x1F14F, [0x0057, 0x0043]), (0x1F16A, [0x004D, 0x0043]),
  (0x1F16B, [0x004D, 0x0044]), (0x1F16C, [0x004D, 0x0052]), (0x1F190, [0x0044, 0x004A]),
  (0x1F200, [0x307B, 0x304B]), (0x1F201, [0x30B3, 0x30B3]), (0x1F202, [0x30B5]),
  (0x1F210, [0x624B]), (0x1F211, [0x5B57]), (0x1F212, [0x53CC]), (0x1F213, [0x30C6, 0x3099]),
  (0x1F214, [0x4E8C]), (0x1F215, [0x591A]), (0x1F216, [0x89E3]), (0x1F217, [0x5929]),
  (0x1F218, [0x4EA4]), (0x1F219, [0x6620]), (0x1F21A, [0x7121]), (0x1F21B, [0x6599]),
  (0x1F21C, [0x524D]), (0x1F21D, [0x5F8C]), (0x1F21E, [0x518D]), (0x1F21F, [0x65B0]),
  (0x1F220, [0x521D]), (0x1F221, [0x7D42]), (0x1F222, [0x751F]), (0x1F223, [0x8CA9]),
  (0x1F224, [0x58F0]), (0x1F225, [0x5439]), (0x1F226, [0x6F14]), (0x1F227, [0x6295]),
  (0x1F228, [0x6355]), (0x1F229, [0x4E00]), (0x1F22A, [0x4E09]), (0x1F22B, [0x904A]),
  (0x1F22C, [0x5DE6]), (0x1F22D, [0x4E2D]), (0x1F22E, [0x53F3]), (0x1F22F, [0x6307]),
  (0x1F230, [0x8D70]), (0x1F231, [0x6253]), (0x1F232, [0x7981]), (0x1F233, [0x7A7A]),
  (0x1F234, [0x5408]), (0x1F235, [0x6E80]), (0x1F236, [0x6709]), (0x1F237, [0x6708]),
  (0x1F238, [0x7533]), (0x1F239, [0x5272]), (0x1F23A, [0x55B6]), (0x1F23B, [0x914D]),
  (0x1F240, [0x3014, 0x672C, 0x3015]), (0x1F241, [0x3014, 0x4E09, 0x3015]),
  (0x1F242, [0x3014, 0x4E8C, 0x3015]), (0x1F243, [0x3014, 0x5B89, 0x3015]),
  (0x1F244, [0x3014, 0x70B9, 0x3015]), (0x1F245, [0x3014, 0x6253, 0x3015]),
  (0x1F246, [0x3014, 0x76D7, 0x3015]), (0x1F247, [0x3014, 0x52DD, 0x3015]),
  (0x1F248, [0x3014, 0x6557, 0x3015]), (0x1F250, [0x5F97]), (0x1F251, [0x53EF])]

end Inquiry.Text
