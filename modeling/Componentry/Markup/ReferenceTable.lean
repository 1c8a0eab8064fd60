import Componentry.Text.Basic

/-!
The named character references of HTML, by initial letter, each with the rest of its name and the
characters it stands for.
-/
namespace Componentry.Markup

def referencesUpperA : List (String × String) := [
    ("Elig", "\xc6"), ("MP", "&"), ("acute", "\xc1"), ("breve", "\u0102"), ("circ", "\xc2"),
    ("cy", "\u0410"), ("fr", "𝔄"), ("grave", "\xc0"), ("lpha", "\u0391"), ("macr", "\u0100"),
    ("nd", "\u2a53"), ("ogon", "\u0104"), ("opf", "𝔸"), ("pplyFunction", "\u2061"), ("ring", "\xc5"),
    ("scr", "𝒜"), ("ssign", "\u2254"), ("tilde", "\xc3"), ("uml", "\xc4")]

def referencesUpperB : List (String × String) := [
    ("ackslash", "\u2216"), ("arv", "\u2ae7"), ("arwed", "\u2306"), ("cy", "\u0411"), ("ecause", "\u2235"),
    ("ernoullis", "\u212c"), ("eta", "\u0392"), ("fr", "𝔅"), ("opf", "𝔹"), ("reve", "\u02d8"),
    ("scr", "\u212c"), ("umpeq", "\u224e")]

def referencesUpperC : List (String × String) := [
    ("Hcy", "\u0427"), ("OPY", "\xa9"), ("acute", "\u0106"), ("ap", "\u22d2"), ("apitalDifferentialD", "\u2145"),
    ("ayleys", "\u212d"), ("caron", "\u010c"), ("cedil", "\xc7"), ("circ", "\u0108"), ("conint", "\u2230"),
    ("dot", "\u010a"), ("edilla", "\xb8"), ("enterDot", "\xb7"), ("fr", "\u212d"), ("hi", "\u03a7"),
    ("ircleDot", "\u2299"), ("ircleMinus", "\u2296"), ("irclePlus", "\u2295"), ("ircleTimes", "\u2297"), ("lockwiseContourIntegral", "\u2232"),
    ("loseCurlyDoubleQuote", "\u201d"), ("loseCurlyQuote", "\u2019"), ("olon", "\u2237"), ("olone", "\u2a74"), ("ongruent", "\u2261"),
    ("onint", "\u222f"), ("ontourIntegral", "\u222e"), ("opf", "\u2102"), ("oproduct", "\u2210"), ("ounterClockwiseContourIntegral", "\u2233"),
    ("ross", "\u2a2f"), ("scr", "𝒞"), ("up", "\u22d3"), ("upCap", "\u224d")]

def referencesUpperD : List (String × String) := [
    ("D", "\u2145"), ("Dotrahd", "\u2911"), ("Jcy", "\u0402"), ("Scy", "\u0405"), ("Zcy", "\u040f"),
    ("agger", "\u2021"), ("arr", "\u21a1"), ("ashv", "\u2ae4"), ("caron", "\u010e"), ("cy", "\u0414"),
    ("el", "\u2207"), ("elta", "\u0394"), ("fr", "𝔇"), ("iacriticalAcute", "\xb4"), ("iacriticalDot", "\u02d9"),
    ("iacriticalDoubleAcute", "\u02dd"), ("iacriticalGrave", "`"), ("iacriticalTilde", "\u02dc"), ("iamond", "\u22c4"), ("ifferentialD", "\u2146"),
    ("opf", "𝔻"), ("ot", "\xa8"), ("otDot", "\u20dc"), ("otEqual", "\u2250"), ("oubleContourIntegral", "\u222f"),
    ("oubleDot", "\xa8"), ("oubleDownArrow", "\u21d3"), ("oubleLeftArrow", "\u21d0"), ("oubleLeftRightArrow", "\u21d4"), ("oubleLeftTee", "\u2ae4"),
    ("oubleLongLeftArrow", "\u27f8"), ("oubleLongLeftRightArrow", "\u27fa"), ("oubleLongRightArrow", "\u27f9"), ("oubleRightArrow", "\u21d2"), ("oubleRightTee", "\u22a8"),
    ("oubleUpArrow", "\u21d1"), ("oubleUpDownArrow", "\u21d5"), ("oubleVerticalBar", "\u2225"), ("ownArrow", "\u2193"), ("ownArrowBar", "\u2913"),
    ("ownArrowUpArrow", "\u21f5"), ("ownBreve", "\u0311"), ("ownLeftRightVector", "\u2950"), ("ownLeftTeeVector", "\u295e"), ("ownLeftVector", "\u21bd"),
    ("ownLeftVectorBar", "\u2956"), ("ownRightTeeVector", "\u295f"), ("ownRightVector", "\u21c1"), ("ownRightVectorBar", "\u2957"), ("ownTee", "\u22a4"),
    ("ownTeeArrow", "\u21a7"), ("ownarrow", "\u21d3"), ("scr", "𝒟"), ("strok", "\u0110")]

def referencesUpperE : List (String × String) := [
    ("NG", "\u014a"), ("TH", "\xd0"), ("acute", "\xc9"), ("caron", "\u011a"), ("circ", "\xca"),
    ("cy", "\u042d"), ("dot", "\u0116"), ("fr", "𝔈"), ("grave", "\xc8"), ("lement", "\u2208"),
    ("macr", "\u0112"), ("mptySmallSquare", "\u25fb"), ("mptyVerySmallSquare", "\u25ab"), ("ogon", "\u0118"), ("opf", "𝔼"),
    ("psilon", "\u0395"), ("qual", "\u2a75"), ("qualTilde", "\u2242"), ("quilibrium", "\u21cc"), ("scr", "\u2130"),
    ("sim", "\u2a73"), ("ta", "\u0397"), ("uml", "\xcb"), ("xists", "\u2203"), ("xponentialE", "\u2147")]

def referencesUpperF : List (String × String) := [
    ("cy", "\u0424"), ("fr", "𝔉"), ("illedSmallSquare", "\u25fc"), ("illedVerySmallSquare", "\u25aa"), ("opf", "𝔽"),
    ("orAll", "\u2200"), ("ouriertrf", "\u2131"), ("scr", "\u2131")]

def referencesUpperG : List (String × String) := [
    ("Jcy", "\u0403"), ("T", ">"), ("amma", "\u0393"), ("ammad", "\u03dc"), ("breve", "\u011e"),
    ("cedil", "\u0122"), ("circ", "\u011c"), ("cy", "\u0413"), ("dot", "\u0120"), ("fr", "𝔊"),
    ("g", "\u22d9"), ("opf", "𝔾"), ("reaterEqual", "\u2265"), ("reaterEqualLess", "\u22db"), ("reaterFullEqual", "\u2267"),
    ("reaterGreater", "\u2aa2"), ("reaterLess", "\u2277"), ("reaterSlantEqual", "\u2a7e"), ("reaterTilde", "\u2273"), ("scr", "𝒢"),
    ("t", "\u226b")]

def referencesUpperH : List (String × String) := [
    ("ARDcy", "\u042a"), ("acek", "\u02c7"), ("at", "^"), ("circ", "\u0124"), ("fr", "\u210c"),
    ("ilbertSpace", "\u210b"), ("opf", "\u210d"), ("orizontalLine", "\u2500"), ("scr", "\u210b"), ("strok", "\u0126"),
    ("umpDownHump", "\u224e"), ("umpEqual", "\u224f")]

def referencesUpperI : List (String × String) := [
    ("Ecy", "\u0415"), ("Jlig", "\u0132"), ("Ocy", "\u0401"), ("acute", "\xcd"), ("circ", "\xce"),
    ("cy", "\u0418"), ("dot", "\u0130"), ("fr", "\u2111"), ("grave", "\xcc"), ("m", "\u2111"),
    ("macr", "\u012a"), ("maginaryI", "\u2148"), ("mplies", "\u21d2"), ("nt", "\u222c"), ("ntegral", "\u222b"),
    ("ntersection", "\u22c2"), ("nvisibleComma", "\u2063"), ("nvisibleTimes", "\u2062"), ("ogon", "\u012e"), ("opf", "𝕀"),
    ("ota", "\u0399"), ("scr", "\u2110"), ("tilde", "\u0128"), ("ukcy", "\u0406"), ("uml", "\xcf")]

def referencesUpperJ : List (String × String) := [
    ("circ", "\u0134"), ("cy", "\u0419"), ("fr", "𝔍"), ("opf", "𝕁"), ("scr", "𝒥"),
    ("sercy", "\u0408"), ("ukcy", "\u0404")]

def referencesUpperK : List (String × String) := [
    ("Hcy", "\u0425"), ("Jcy", "\u040c"), ("appa", "\u039a"), ("cedil", "\u0136"), ("cy", "\u041a"),
    ("fr", "𝔎"), ("opf", "𝕂"), ("scr", "𝒦")]

def referencesUpperL : List (String × String) := [
    ("Jcy", "\u0409"), ("T", "<"), ("acute", "\u0139"), ("ambda", "\u039b"), ("ang", "\u27ea"),
    ("aplacetrf", "\u2112"), ("arr", "\u219e"), ("caron", "\u013d"), ("cedil", "\u013b"), ("cy", "\u041b"),
    ("eftAngleBracket", "\u27e8"), ("eftArrow", "\u2190"), ("eftArrowBar", "\u21e4"), ("eftArrowRightArrow", "\u21c6"), ("eftCeiling", "\u2308"),
    ("eftDoubleBracket", "\u27e6"), ("eftDownTeeVector", "\u2961"), ("eftDownVector", "\u21c3"), ("eftDownVectorBar", "\u2959"), ("eftFloor", "\u230a"),
    ("eftRightArrow", "\u2194"), ("eftRightVector", "\u294e"), ("eftTee", "\u22a3"), ("eftTeeArrow", "\u21a4"), ("eftTeeVector", "\u295a"),
    ("eftTriangle", "\u22b2"), ("eftTriangleBar", "\u29cf"), ("eftTriangleEqual", "\u22b4"), ("eftUpDownVector", "\u2951"), ("eftUpTeeVector", "\u2960"),
    ("eftUpVector", "\u21bf"), ("eftUpVectorBar", "\u2958"), ("eftVector", "\u21bc"), ("eftVectorBar", "\u2952"), ("eftarrow", "\u21d0"),
    ("eftrightarrow", "\u21d4"), ("essEqualGreater", "\u22da"), ("essFullEqual", "\u2266"), ("essGreater", "\u2276"), ("essLess", "\u2aa1"),
    ("essSlantEqual", "\u2a7d"), ("essTilde", "\u2272"), ("fr", "𝔏"), ("l", "\u22d8"), ("leftarrow", "\u21da"),
    ("midot", "\u013f"), ("ongLeftArrow", "\u27f5"), ("ongLeftRightArrow", "\u27f7"), ("ongRightArrow", "\u27f6"), ("ongleftarrow", "\u27f8"),
    ("ongleftrightarrow", "\u27fa"), ("ongrightarrow", "\u27f9"), ("opf", "𝕃"), ("owerLeftArrow", "\u2199"), ("owerRightArrow", "\u2198"),
    ("scr", "\u2112"), ("sh", "\u21b0"), ("strok", "\u0141"), ("t", "\u226a")]

def referencesUpperM : List (String × String) := [
    ("ap", "\u2905"), ("cy", "\u041c"), ("ediumSpace", "\u205f"), ("ellintrf", "\u2133"), ("fr", "𝔐"),
    ("inusPlus", "\u2213"), ("opf", "𝕄"), ("scr", "\u2133"), ("u", "\u039c")]

def referencesUpperN : List (String × String) := [
    ("Jcy", "\u040a"), ("acute", "\u0143"), ("caron", "\u0147"), ("cedil", "\u0145"), ("cy", "\u041d"),
    ("egativeMediumSpace", "\u200b"), ("egativeThickSpace", "\u200b"), ("egativeThinSpace", "\u200b"), ("egativeVeryThinSpace", "\u200b"), ("estedGreaterGreater", "\u226b"),
    ("estedLessLess", "\u226a"), ("ewLine", "\x0a"), ("fr", "𝔑"), ("oBreak", "\u2060"), ("onBreakingSpace", "\xa0"),
    ("opf", "\u2115"), ("ot", "\u2aec"), ("otCongruent", "\u2262"), ("otCupCap", "\u226d"), ("otDoubleVerticalBar", "\u2226"),
    ("otElement", "\u2209"), ("otEqual", "\u2260"), ("otEqualTilde", "\u2242\u0338"), ("otExists", "\u2204"), ("otGreater", "\u226f"),
    ("otGreaterEqual", "\u2271"), ("otGreaterFullEqual", "\u2267\u0338"), ("otGreaterGreater", "\u226b\u0338"), ("otGreaterLess", "\u2279"), ("otGreaterSlantEqual", "\u2a7e\u0338"),
    ("otGreaterTilde", "\u2275"), ("otHumpDownHump", "\u224e\u0338"), ("otHumpEqual", "\u224f\u0338"), ("otLeftTriangle", "\u22ea"), ("otLeftTriangleBar", "\u29cf\u0338"),
    ("otLeftTriangleEqual", "\u22ec"), ("otLess", "\u226e"), ("otLessEqual", "\u2270"), ("otLessGreater", "\u2278"), ("otLessLess", "\u226a\u0338"),
    ("otLessSlantEqual", "\u2a7d\u0338"), ("otLessTilde", "\u2274"), ("otNestedGreaterGreater", "\u2aa2\u0338"), ("otNestedLessLess", "\u2aa1\u0338"), ("otPrecedes", "\u2280"),
    ("otPrecedesEqual", "\u2aaf\u0338"), ("otPrecedesSlantEqual", "\u22e0"), ("otReverseElement", "\u220c"), ("otRightTriangle", "\u22eb"), ("otRightTriangleBar", "\u29d0\u0338"),
    ("otRightTriangleEqual", "\u22ed"), ("otSquareSubset", "\u228f\u0338"), ("otSquareSubsetEqual", "\u22e2"), ("otSquareSuperset", "\u2290\u0338"), ("otSquareSupersetEqual", "\u22e3"),
    ("otSubset", "\u2282\u20d2"), ("otSubsetEqual", "\u2288"), ("otSucceeds", "\u2281"), ("otSucceedsEqual", "\u2ab0\u0338"), ("otSucceedsSlantEqual", "\u22e1"),
    ("otSucceedsTilde", "\u227f\u0338"), ("otSuperset", "\u2283\u20d2"), ("otSupersetEqual", "\u2289"), ("otTilde", "\u2241"), ("otTildeEqual", "\u2244"),
    ("otTildeFullEqual", "\u2247"), ("otTildeTilde", "\u2249"), ("otVerticalBar", "\u2224"), ("scr", "𝒩"), ("tilde", "\xd1"),
    ("u", "\u039d")]

def referencesUpperO : List (String × String) := [
    ("Elig", "\u0152"), ("acute", "\xd3"), ("circ", "\xd4"), ("cy", "\u041e"), ("dblac", "\u0150"),
    ("fr", "𝔒"), ("grave", "\xd2"), ("macr", "\u014c"), ("mega", "\u03a9"), ("micron", "\u039f"),
    ("opf", "𝕆"), ("penCurlyDoubleQuote", "\u201c"), ("penCurlyQuote", "\u2018"), ("r", "\u2a54"), ("scr", "𝒪"),
    ("slash", "\xd8"), ("tilde", "\xd5"), ("times", "\u2a37"), ("uml", "\xd6"), ("verBar", "\u203e"),
    ("verBrace", "\u23de"), ("verBracket", "\u23b4"), ("verParenthesis", "\u23dc")]

def referencesUpperP : List (String × String) := [
    ("artialD", "\u2202"), ("cy", "\u041f"), ("fr", "𝔓"), ("hi", "\u03a6"), ("i", "\u03a0"),
    ("lusMinus", "\xb1"), ("oincareplane", "\u210c"), ("opf", "\u2119"), ("r", "\u2abb"), ("recedes", "\u227a"),
    ("recedesEqual", "\u2aaf"), ("recedesSlantEqual", "\u227c"), ("recedesTilde", "\u227e"), ("rime", "\u2033"), ("roduct", "\u220f"),
    ("roportion", "\u2237"), ("roportional", "\u221d"), ("scr", "𝒫"), ("si", "\u03a8")]

def referencesUpperQ : List (String × String) := [
    ("UOT", "\""), ("fr", "𝔔"), ("opf", "\u211a"), ("scr", "𝒬")]

def referencesUpperR : List (String × String) := [
    ("Barr", "\u2910"), ("EG", "\xae"), ("acute", "\u0154"), ("ang", "\u27eb"), ("arr", "\u21a0"),
    ("arrtl", "\u2916"), ("caron", "\u0158"), ("cedil", "\u0156"), ("cy", "\u0420"), ("e", "\u211c"),
    ("everseElement", "\u220b"), ("everseEquilibrium", "\u21cb"), ("everseUpEquilibrium", "\u296f"), ("fr", "\u211c"), ("ho", "\u03a1"),
    ("ightAngleBracket", "\u27e9"), ("ightArrow", "\u2192"), ("ightArrowBar", "\u21e5"), ("ightArrowLeftArrow", "\u21c4"), ("ightCeiling", "\u2309"),
    ("ightDoubleBracket", "\u27e7"), ("ightDownTeeVector", "\u295d"), ("ightDownVector", "\u21c2"), ("ightDownVectorBar", "\u2955"), ("ightFloor", "\u230b"),
    ("ightTee", "\u22a2"), ("ightTeeArrow", "\u21a6"), ("ightTeeVector", "\u295b"), ("ightTriangle", "\u22b3"), ("ightTriangleBar", "\u29d0"),
    ("ightTriangleEqual", "\u22b5"), ("ightUpDownVector", "\u294f"), ("ightUpTeeVector", "\u295c"), ("ightUpVector", "\u21be"), ("ightUpVectorBar", "\u2954"),
    ("ightVector", "\u21c0"), ("ightVectorBar", "\u2953"), ("ightarrow", "\u21d2"), ("opf", "\u211d"), ("oundImplies", "\u2970"),
    ("rightarrow", "\u21db"), ("scr", "\u211b"), ("sh", "\u21b1"), ("uleDelayed", "\u29f4")]

def referencesUpperS : List (String × String) := [
    ("HCHcy", "\u0429"), ("Hcy", "\u0428"), ("OFTcy", "\u042c"), ("acute", "\u015a"), ("c", "\u2abc"),
    ("caron", "\u0160"), ("cedil", "\u015e"), ("circ", "\u015c"), ("cy", "\u0421"), ("fr", "𝔖"),
    ("hortDownArrow", "\u2193"), ("hortLeftArrow", "\u2190"), ("hortRightArrow", "\u2192"), ("hortUpArrow", "\u2191"), ("igma", "\u03a3"),
    ("mallCircle", "\u2218"), ("opf", "𝕊"), ("qrt", "\u221a"), ("quare", "\u25a1"), ("quareIntersection", "\u2293"),
    ("quareSubset", "\u228f"), ("quareSubsetEqual", "\u2291"), ("quareSuperset", "\u2290"), ("quareSupersetEqual", "\u2292"), ("quareUnion", "\u2294"),
    ("scr", "𝒮"), ("tar", "\u22c6"), ("ub", "\u22d0"), ("ubset", "\u22d0"), ("ubsetEqual", "\u2286"),
    ("ucceeds", "\u227b"), ("ucceedsEqual", "\u2ab0"), ("ucceedsSlantEqual", "\u227d"), ("ucceedsTilde", "\u227f"), ("uchThat", "\u220b"),
    ("um", "\u2211"), ("up", "\u22d1"), ("uperset", "\u2283"), ("upersetEqual", "\u2287"), ("upset", "\u22d1")]

def referencesUpperT : List (String × String) := [
    ("HORN", "\xde"), ("RADE", "\u2122"), ("SHcy", "\u040b"), ("Scy", "\u0426"), ("ab", "\x09"),
    ("au", "\u03a4"), ("caron", "\u0164"), ("cedil", "\u0162"), ("cy", "\u0422"), ("fr", "𝔗"),
    ("herefore", "\u2234"), ("heta", "\u0398"), ("hickSpace", "\u205f\u200a"), ("hinSpace", "\u2009"), ("ilde", "\u223c"),
    ("ildeEqual", "\u2243"), ("ildeFullEqual", "\u2245"), ("ildeTilde", "\u2248"), ("opf", "𝕋"), ("ripleDot", "\u20db"),
    ("scr", "𝒯"), ("strok", "\u0166")]

def referencesUpperU : List (String × String) := [
    ("acute", "\xda"), ("arr", "\u219f"), ("arrocir", "\u2949"), ("brcy", "\u040e"), ("breve", "\u016c"),
    ("circ", "\xdb"), ("cy", "\u0423"), ("dblac", "\u0170"), ("fr", "𝔘"), ("grave", "\xd9"),
    ("macr", "\u016a"), ("nderBar", "_"), ("nderBrace", "\u23df"), ("nderBracket", "\u23b5"), ("nderParenthesis", "\u23dd"),
    ("nion", "\u22c3"), ("nionPlus", "\u228e"), ("ogon", "\u0172"), ("opf", "𝕌"), ("pArrow", "\u2191"),
    ("pArrowBar", "\u2912"), ("pArrowDownArrow", "\u21c5"), ("pDownArrow", "\u2195"), ("pEquilibrium", "\u296e"), ("pTee", "\u22a5"),
    ("pTeeArrow", "\u21a5"), ("parrow", "\u21d1"), ("pdownarrow", "\u21d5"), ("pperLeftArrow", "\u2196"), ("pperRightArrow", "\u2197"),
    ("psi", "\u03d2"), ("psilon", "\u03a5"), ("ring", "\u016e"), ("scr", "𝒰"), ("tilde", "\u0168"),
    ("uml", "\xdc")]

def referencesUpperV : List (String × String) := [
    ("Dash", "\u22ab"), ("bar", "\u2aeb"), ("cy", "\u0412"), ("dash", "\u22a9"), ("dashl", "\u2ae6"),
    ("ee", "\u22c1"), ("erbar", "\u2016"), ("ert", "\u2016"), ("erticalBar", "\u2223"), ("erticalLine", "|"),
    ("erticalSeparator", "\u2758"), ("erticalTilde", "\u2240"), ("eryThinSpace", "\u200a"), ("fr", "𝔙"), ("opf", "𝕍"),
    ("scr", "𝒱"), ("vdash", "\u22aa")]

def referencesUpperW : List (String × String) := [
    ("circ", "\u0174"), ("edge", "\u22c0"), ("fr", "𝔚"), ("opf", "𝕎"), ("scr", "𝒲")]

def referencesUpperX : List (String × String) := [
    ("fr", "𝔛"), ("i", "\u039e"), ("opf", "𝕏"), ("scr", "𝒳")]

def referencesUpperY : List (String × String) := [
    ("Acy", "\u042f"), ("Icy", "\u0407"), ("Ucy", "\u042e"), ("acute", "\xdd"), ("circ", "\u0176"),
    ("cy", "\u042b"), ("fr", "𝔜"), ("opf", "𝕐"), ("scr", "𝒴"), ("uml", "\u0178")]

def referencesUpperZ : List (String × String) := [
    ("Hcy", "\u0416"), ("acute", "\u0179"), ("caron", "\u017d"), ("cy", "\u0417"), ("dot", "\u017b"),
    ("eroWidthSpace", "\u200b"), ("eta", "\u0396"), ("fr", "\u2128"), ("opf", "\u2124"), ("scr", "𝒵")]

def referencesLowerA : List (String × String) := [
    ("acute", "\xe1"), ("breve", "\u0103"), ("c", "\u223e"), ("cE", "\u223e\u0333"), ("cd", "\u223f"),
    ("circ", "\xe2"), ("cute", "\xb4"), ("cy", "\u0430"), ("elig", "\xe6"), ("f", "\u2061"),
    ("fr", "𝔞"), ("grave", "\xe0"), ("lefsym", "\u2135"), ("leph", "\u2135"), ("lpha", "\u03b1"),
    ("macr", "\u0101"), ("malg", "\u2a3f"), ("mp", "&"), ("nd", "\u2227"), ("ndand", "\u2a55"),
    ("ndd", "\u2a5c"), ("ndslope", "\u2a58"), ("ndv", "\u2a5a"), ("ng", "\u2220"), ("nge", "\u29a4"),
    ("ngle", "\u2220"), ("ngmsd", "\u2221"), ("ngmsdaa", "\u29a8"), ("ngmsdab", "\u29a9"), ("ngmsdac", "\u29aa"),
    ("ngmsdad", "\u29ab"), ("ngmsdae", "\u29ac"), ("ngmsdaf", "\u29ad"), ("ngmsdag", "\u29ae"), ("ngmsdah", "\u29af"),
    ("ngrt", "\u221f"), ("ngrtvb", "\u22be"), ("ngrtvbd", "\u299d"), ("ngsph", "\u2222"), ("ngst", "\xc5"),
    ("ngzarr", "\u237c"), ("ogon", "\u0105"), ("opf", "𝕒"), ("p", "\u2248"), ("pE", "\u2a70"),
    ("pacir", "\u2a6f"), ("pe", "\u224a"), ("pid", "\u224b"), ("pos", "'"), ("pprox", "\u2248"),
    ("pproxeq", "\u224a"), ("ring", "\xe5"), ("scr", "𝒶"), ("st", "*"), ("symp", "\u2248"),
    ("sympeq", "\u224d"), ("tilde", "\xe3"), ("uml", "\xe4"), ("wconint", "\u2233"), ("wint", "\u2a11")]

def referencesLowerB : List (String × String) := [
    ("Not", "\u2aed"), ("ackcong", "\u224c"), ("ackepsilon", "\u03f6"), ("ackprime", "\u2035"), ("acksim", "\u223d"),
    ("acksimeq", "\u22cd"), ("arvee", "\u22bd"), ("arwed", "\u2305"), ("arwedge", "\u2305"), ("brk", "\u23b5"),
    ("brktbrk", "\u23b6"), ("cong", "\u224c"), ("cy", "\u0431"), ("dquo", "\u201e"), ("ecaus", "\u2235"),
    ("ecause", "\u2235"), ("emptyv", "\u29b0"), ("epsi", "\u03f6"), ("ernou", "\u212c"), ("eta", "\u03b2"),
    ("eth", "\u2136"), ("etween", "\u226c"), ("fr", "𝔟"), ("igcap", "\u22c2"), ("igcirc", "\u25ef"),
    ("igcup", "\u22c3"), ("igodot", "\u2a00"), ("igoplus", "\u2a01"), ("igotimes", "\u2a02"), ("igsqcup", "\u2a06"),
    ("igstar", "\u2605"), ("igtriangledown", "\u25bd"), ("igtriangleup", "\u25b3"), ("iguplus", "\u2a04"), ("igvee", "\u22c1"),
    ("igwedge", "\u22c0"), ("karow", "\u290d"), ("lacklozenge", "\u29eb"), ("lacksquare", "\u25aa"), ("lacktriangle", "\u25b4"),
    ("lacktriangledown", "\u25be"), ("lacktriangleleft", "\u25c2"), ("lacktriangleright", "\u25b8"), ("lank", "\u2423"), ("lk12", "\u2592"),
    ("lk14", "\u2591"), ("lk34", "\u2593"), ("lock", "\u2588"), ("ne", "=\u20e5"), ("nequiv", "\u2261\u20e5"),
    ("not", "\u2310"), ("opf", "𝕓"), ("ot", "\u22a5"), ("ottom", "\u22a5"), ("owtie", "\u22c8"),
    ("oxDL", "\u2557"), ("oxDR", "\u2554"), ("oxDl", "\u2556"), ("oxDr", "\u2553"), ("oxH", "\u2550"),
    ("oxHD", "\u2566"), ("oxHU", "\u2569"), ("oxHd", "\u2564"), ("oxHu", "\u2567"), ("oxUL", "\u255d"),
    ("oxUR", "\u255a"), ("oxUl", "\u255c"), ("oxUr", "\u2559"), ("oxV", "\u2551"), ("oxVH", "\u256c"),
    ("oxVL", "\u2563"), ("oxVR", "\u2560"), ("oxVh", "\u256b"), ("oxVl", "\u2562"), ("oxVr", "\u255f"),
    ("oxbox", "\u29c9"), ("oxdL", "\u2555"), ("oxdR", "\u2552"), ("oxdl", "\u2510"), ("oxdr", "\u250c"),
    ("oxh", "\u2500"), ("oxhD", "\u2565"), ("oxhU", "\u2568"), ("oxhd", "\u252c"), ("oxhu", "\u2534"),
    ("oxminus", "\u229f"), ("oxplus", "\u229e"), ("oxtimes", "\u22a0"), ("oxuL", "\u255b"), ("oxuR", "\u2558"),
    ("oxul", "\u2518"), ("oxur", "\u2514"), ("oxv", "\u2502"), ("oxvH", "\u256a"), ("oxvL", "\u2561"),
    ("oxvR", "\u255e"), ("oxvh", "\u253c"), ("oxvl", "\u2524"), ("oxvr", "\u251c"), ("prime", "\u2035"),
    ("reve", "\u02d8"), ("rvbar", "\xa6"), ("scr", "𝒷"), ("semi", "\u204f"), ("sim", "\u223d"),
    ("sime", "\u22cd"), ("sol", "\\"), ("solb", "\u29c5"), ("solhsub", "\u27c8"), ("ull", "\u2022"),
    ("ullet", "\u2022"), ("ump", "\u224e"), ("umpE", "\u2aae"), ("umpe", "\u224f"), ("umpeq", "\u224f")]

def referencesLowerC : List (String × String) := [
    ("acute", "\u0107"), ("ap", "\u2229"), ("apand", "\u2a44"), ("apbrcup", "\u2a49"), ("apcap", "\u2a4b"),
    ("apcup", "\u2a47"), ("apdot", "\u2a40"), ("aps", "\u2229\ufe00"), ("aret", "\u2041"), ("aron", "\u02c7"),
    ("caps", "\u2a4d"), ("caron", "\u010d"), ("cedil", "\xe7"), ("circ", "\u0109"), ("cups", "\u2a4c"),
    ("cupssm", "\u2a50"), ("dot", "\u010b"), ("edil", "\xb8"), ("emptyv", "\u29b2"), ("ent", "\xa2"),
    ("enterdot", "\xb7"), ("fr", "𝔠"), ("hcy", "\u0447"), ("heck", "\u2713"), ("heckmark", "\u2713"),
    ("hi", "\u03c7"), ("ir", "\u25cb"), ("irE", "\u29c3"), ("irc", "\u02c6"), ("irceq", "\u2257"),
    ("irclearrowleft", "\u21ba"), ("irclearrowright", "\u21bb"), ("ircledR", "\xae"), ("ircledS", "\u24c8"), ("ircledast", "\u229b"),
    ("ircledcirc", "\u229a"), ("ircleddash", "\u229d"), ("ire", "\u2257"), ("irfnint", "\u2a10"), ("irmid", "\u2aef"),
    ("irscir", "\u29c2"), ("lubs", "\u2663"), ("lubsuit", "\u2663"), ("olon", ":"), ("olone", "\u2254"),
    ("oloneq", "\u2254"), ("omma", ","), ("ommat", "@"), ("omp", "\u2201"), ("ompfn", "\u2218"),
    ("omplement", "\u2201"), ("omplexes", "\u2102"), ("ong", "\u2245"), ("ongdot", "\u2a6d"), ("onint", "\u222e"),
    ("opf", "𝕔"), ("oprod", "\u2210"), ("opy", "\xa9"), ("opysr", "\u2117"), ("rarr", "\u21b5"),
    ("ross", "\u2717"), ("scr", "𝒸"), ("sub", "\u2acf"), ("sube", "\u2ad1"), ("sup", "\u2ad0"),
    ("supe", "\u2ad2"), ("tdot", "\u22ef"), ("udarrl", "\u2938"), ("udarrr", "\u2935"), ("uepr", "\u22de"),
    ("uesc", "\u22df"), ("ularr", "\u21b6"), ("ularrp", "\u293d"), ("up", "\u222a"), ("upbrcap", "\u2a48"),
    ("upcap", "\u2a46"), ("upcup", "\u2a4a"), ("updot", "\u228d"), ("upor", "\u2a45"), ("ups", "\u222a\ufe00"),
    ("urarr", "\u21b7"), ("urarrm", "\u293c"), ("urlyeqprec", "\u22de"), ("urlyeqsucc", "\u22df"), ("urlyvee", "\u22ce"),
    ("urlywedge", "\u22cf"), ("urren", "\xa4"), ("urvearrowleft", "\u21b6"), ("urvearrowright", "\u21b7"), ("uvee", "\u22ce"),
    ("uwed", "\u22cf"), ("wconint", "\u2232"), ("wint", "\u2231"), ("ylcty", "\u232d")]

def referencesLowerD : List (String × String) := [
    ("Arr", "\u21d3"), ("Har", "\u2965"), ("agger", "\u2020"), ("aleth", "\u2138"), ("arr", "\u2193"),
    ("ash", "\u2010"), ("ashv", "\u22a3"), ("bkarow", "\u290f"), ("blac", "\u02dd"), ("caron", "\u010f"),
    ("cy", "\u0434"), ("d", "\u2146"), ("dagger", "\u2021"), ("darr", "\u21ca"), ("dotseq", "\u2a77"),
    ("eg", "\xb0"), ("elta", "\u03b4"), ("emptyv", "\u29b1"), ("fisht", "\u297f"), ("fr", "𝔡"),
    ("harl", "\u21c3"), ("harr", "\u21c2"), ("iam", "\u22c4"), ("iamond", "\u22c4"), ("iamondsuit", "\u2666"),
    ("iams", "\u2666"), ("ie", "\xa8"), ("igamma", "\u03dd"), ("isin", "\u22f2"), ("iv", "\xf7"),
    ("ivide", "\xf7"), ("ivideontimes", "\u22c7"), ("ivonx", "\u22c7"), ("jcy", "\u0452"), ("lcorn", "\u231e"),
    ("lcrop", "\u230d"), ("ollar", "$"), ("opf", "𝕕"), ("ot", "\u02d9"), ("oteq", "\u2250"),
    ("oteqdot", "\u2251"), ("otminus", "\u2238"), ("otplus", "\u2214"), ("otsquare", "\u22a1"), ("oublebarwedge", "\u2306"),
    ("ownarrow", "\u2193"), ("owndownarrows", "\u21ca"), ("ownharpoonleft", "\u21c3"), ("ownharpoonright", "\u21c2"), ("rbkarow", "\u2910"),
    ("rcorn", "\u231f"), ("rcrop", "\u230c"), ("scr", "𝒹"), ("scy", "\u0455"), ("sol", "\u29f6"),
    ("strok", "\u0111"), ("tdot", "\u22f1"), ("tri", "\u25bf"), ("trif", "\u25be"), ("uarr", "\u21f5"),
    ("uhar", "\u296f"), ("wangle", "\u29a6"), ("zcy", "\u045f"), ("zigrarr", "\u27ff")]

def referencesLowerE : List (String × String) := [
    ("DDot", "\u2a77"), ("Dot", "\u2251"), ("acute", "\xe9"), ("aster", "\u2a6e"), ("caron", "\u011b"),
    ("cir", "\u2256"), ("circ", "\xea"), ("colon", "\u2255"), ("cy", "\u044d"), ("dot", "\u0117"),
    ("e", "\u2147"), ("fDot", "\u2252"), ("fr", "𝔢"), ("g", "\u2a9a"), ("grave", "\xe8"),
    ("gs", "\u2a96"), ("gsdot", "\u2a98"), ("l", "\u2a99"), ("linters", "\u23e7"), ("ll", "\u2113"),
    ("ls", "\u2a95"), ("lsdot", "\u2a97"), ("macr", "\u0113"), ("mpty", "\u2205"), ("mptyset", "\u2205"),
    ("mptyv", "\u2205"), ("msp", "\u2003"), ("msp13", "\u2004"), ("msp14", "\u2005"), ("ng", "\u014b"),
    ("nsp", "\u2002"), ("ogon", "\u0119"), ("opf", "𝕖"), ("par", "\u22d5"), ("parsl", "\u29e3"),
    ("plus", "\u2a71"), ("psi", "\u03b5"), ("psilon", "\u03b5"), ("psiv", "\u03f5"), ("qcirc", "\u2256"),
    ("qcolon", "\u2255"), ("qsim", "\u2242"), ("qslantgtr", "\u2a96"), ("qslantless", "\u2a95"), ("quals", "="),
    ("quest", "\u225f"), ("quiv", "\u2261"), ("quivDD", "\u2a78"), ("qvparsl", "\u29e5"), ("rDot", "\u2253"),
    ("rarr", "\u2971"), ("scr", "\u212f"), ("sdot", "\u2250"), ("sim", "\u2242"), ("ta", "\u03b7"),
    ("th", "\xf0"), ("uml", "\xeb"), ("uro", "\u20ac"), ("xcl", "!"), ("xist", "\u2203"),
    ("xpectation", "\u2130"), ("xponentiale", "\u2147")]

def referencesLowerF : List (String × String) := [
    ("allingdotseq", "\u2252"), ("cy", "\u0444"), ("emale", "\u2640"), ("filig", "\ufb03"), ("flig", "\ufb00"),
    ("fllig", "\ufb04"), ("fr", "𝔣"), ("ilig", "\ufb01"), ("jlig", "fj"), ("lat", "\u266d"),
    ("llig", "\ufb02"), ("ltns", "\u25b1"), ("nof", "\u0192"), ("opf", "𝕗"), ("orall", "\u2200"),
    ("ork", "\u22d4"), ("orkv", "\u2ad9"), ("partint", "\u2a0d"), ("rac12", "\xbd"), ("rac13", "\u2153"),
    ("rac14", "\xbc"), ("rac15", "\u2155"), ("rac16", "\u2159"), ("rac18", "\u215b"), ("rac23", "\u2154"),
    ("rac25", "\u2156"), ("rac34", "\xbe"), ("rac35", "\u2157"), ("rac38", "\u215c"), ("rac45", "\u2158"),
    ("rac56", "\u215a"), ("rac58", "\u215d"), ("rac78", "\u215e"), ("rasl", "\u2044"), ("rown", "\u2322"),
    ("scr", "𝒻")]

def referencesLowerG : List (String × String) := [
    ("E", "\u2267"), ("El", "\u2a8c"), ("acute", "\u01f5"), ("amma", "\u03b3"), ("ammad", "\u03dd"),
    ("ap", "\u2a86"), ("breve", "\u011f"), ("circ", "\u011d"), ("cy", "\u0433"), ("dot", "\u0121"),
    ("e", "\u2265"), ("el", "\u22db"), ("eq", "\u2265"), ("eqq", "\u2267"), ("eqslant", "\u2a7e"),
    ("es", "\u2a7e"), ("escc", "\u2aa9"), ("esdot", "\u2a80"), ("esdoto", "\u2a82"), ("esdotol", "\u2a84"),
    ("esl", "\u22db\ufe00"), ("esles", "\u2a94"), ("fr", "𝔤"), ("g", "\u226b"), ("gg", "\u22d9"),
    ("imel", "\u2137"), ("jcy", "\u0453"), ("l", "\u2277"), ("lE", "\u2a92"), ("la", "\u2aa5"),
    ("lj", "\u2aa4"), ("nE", "\u2269"), ("nap", "\u2a8a"), ("napprox", "\u2a8a"), ("ne", "\u2a88"),
    ("neq", "\u2a88"), ("neqq", "\u2269"), ("nsim", "\u22e7"), ("opf", "𝕘"), ("rave", "`"),
    ("scr", "\u210a"), ("sim", "\u2273"), ("sime", "\u2a8e"), ("siml", "\u2a90"), ("t", ">"),
    ("tcc", "\u2aa7"), ("tcir", "\u2a7a"), ("tdot", "\u22d7"), ("tlPar", "\u2995"), ("tquest", "\u2a7c"),
    ("trapprox", "\u2a86"), ("trarr", "\u2978"), ("trdot", "\u22d7"), ("treqless", "\u22db"), ("treqqless", "\u2a8c"),
    ("trless", "\u2277"), ("trsim", "\u2273"), ("vertneqq", "\u2269\ufe00"), ("vnE", "\u2269\ufe00")]

def referencesLowerH : List (String × String) := [
    ("Arr", "\u21d4"), ("airsp", "\u200a"), ("alf", "\xbd"), ("amilt", "\u210b"), ("ardcy", "\u044a"),
    ("arr", "\u2194"), ("arrcir", "\u2948"), ("arrw", "\u21ad"), ("bar", "\u210f"), ("circ", "\u0125"),
    ("earts", "\u2665"), ("eartsuit", "\u2665"), ("ellip", "\u2026"), ("ercon", "\u22b9"), ("fr", "𝔥"),
    ("ksearow", "\u2925"), ("kswarow", "\u2926"), ("oarr", "\u21ff"), ("omtht", "\u223b"), ("ookleftarrow", "\u21a9"),
    ("ookrightarrow", "\u21aa"), ("opf", "𝕙"), ("orbar", "\u2015"), ("scr", "𝒽"), ("slash", "\u210f"),
    ("strok", "\u0127"), ("ybull", "\u2043"), ("yphen", "\u2010")]

def referencesLowerI : List (String × String) := [
    ("acute", "\xed"), ("c", "\u2063"), ("circ", "\xee"), ("cy", "\u0438"), ("ecy", "\u0435"),
    ("excl", "\xa1"), ("ff", "\u21d4"), ("fr", "𝔦"), ("grave", "\xec"), ("i", "\u2148"),
    ("iiint", "\u2a0c"), ("iint", "\u222d"), ("infin", "\u29dc"), ("iota", "\u2129"), ("jlig", "\u0133"),
    ("macr", "\u012b"), ("mage", "\u2111"), ("magline", "\u2110"), ("magpart", "\u2111"), ("math", "\u0131"),
    ("mof", "\u22b7"), ("mped", "\u01b5"), ("n", "\u2208"), ("ncare", "\u2105"), ("nfin", "\u221e"),
    ("nfintie", "\u29dd"), ("nodot", "\u0131"), ("nt", "\u222b"), ("ntcal", "\u22ba"), ("ntegers", "\u2124"),
    ("ntercal", "\u22ba"), ("ntlarhk", "\u2a17"), ("ntprod", "\u2a3c"), ("ocy", "\u0451"), ("ogon", "\u012f"),
    ("opf", "𝕚"), ("ota", "\u03b9"), ("prod", "\u2a3c"), ("quest", "\xbf"), ("scr", "𝒾"),
    ("sin", "\u2208"), ("sinE", "\u22f9"), ("sindot", "\u22f5"), ("sins", "\u22f4"), ("sinsv", "\u22f3"),
    ("sinv", "\u2208"), ("t", "\u2062"), ("tilde", "\u0129"), ("ukcy", "\u0456"), ("uml", "\xef")]

def referencesLowerJ : List (String × String) := [
    ("circ", "\u0135"), ("cy", "\u0439"), ("fr", "𝔧"), ("math", "\u0237"), ("opf", "𝕛"),
    ("scr", "𝒿"), ("sercy", "\u0458"), ("ukcy", "\u0454")]

def referencesLowerK : List (String × String) := [
    ("appa", "\u03ba"), ("appav", "\u03f0"), ("cedil", "\u0137"), ("cy", "\u043a"), ("fr", "𝔨"),
    ("green", "\u0138"), ("hcy", "\u0445"), ("jcy", "\u045c"), ("opf", "𝕜"), ("scr", "𝓀")]

def referencesLowerL : List (String × String) := [
    ("Aarr", "\u21da"), ("Arr", "\u21d0"), ("Atail", "\u291b"), ("Barr", "\u290e"), ("E", "\u2266"),
    ("Eg", "\u2a8b"), ("Har", "\u2962"), ("acute", "\u013a"), ("aemptyv", "\u29b4"), ("agran", "\u2112"),
    ("ambda", "\u03bb"), ("ang", "\u27e8"), ("angd", "\u2991"), ("angle", "\u27e8"), ("ap", "\u2a85"),
    ("aquo", "\xab"), ("arr", "\u2190"), ("arrb", "\u21e4"), ("arrbfs", "\u291f"), ("arrfs", "\u291d"),
    ("arrhk", "\u21a9"), ("arrlp", "\u21ab"), ("arrpl", "\u2939"), ("arrsim", "\u2973"), ("arrtl", "\u21a2"),
    ("at", "\u2aab"), ("atail", "\u2919"), ("ate", "\u2aad"), ("ates", "\u2aad\ufe00"), ("barr", "\u290c"),
    ("bbrk", "\u2772"), ("brace", "\x7b"), ("brack", "["), ("brke", "\u298b"), ("brksld", "\u298f"),
    ("brkslu", "\u298d"), ("caron", "\u013e"), ("cedil", "\u013c"), ("ceil", "\u2308"), ("cub", "\x7b"),
    ("cy", "\u043b"), ("dca", "\u2936"), ("dquo", "\u201c"), ("dquor", "\u201e"), ("drdhar", "\u2967"),
    ("drushar", "\u294b"), ("dsh", "\u21b2"), ("e", "\u2264"), ("eftarrow", "\u2190"), ("eftarrowtail", "\u21a2"),
    ("eftharpoondown", "\u21bd"), ("eftharpoonup", "\u21bc"), ("eftleftarrows", "\u21c7"), ("eftrightarrow", "\u2194"), ("eftrightarrows", "\u21c6"),
    ("eftrightharpoons", "\u21cb"), ("eftrightsquigarrow", "\u21ad"), ("eftthreetimes", "\u22cb"), ("eg", "\u22da"), ("eq", "\u2264"),
    ("eqq", "\u2266"), ("eqslant", "\u2a7d"), ("es", "\u2a7d"), ("escc", "\u2aa8"), ("esdot", "\u2a7f"),
    ("esdoto", "\u2a81"), ("esdotor", "\u2a83"), ("esg", "\u22da\ufe00"), ("esges", "\u2a93"), ("essapprox", "\u2a85"),
    ("essdot", "\u22d6"), ("esseqgtr", "\u22da"), ("esseqqgtr", "\u2a8b"), ("essgtr", "\u2276"), ("esssim", "\u2272"),
    ("fisht", "\u297c"), ("floor", "\u230a"), ("fr", "𝔩"), ("g", "\u2276"), ("gE", "\u2a91"),
    ("hard", "\u21bd"), ("haru", "\u21bc"), ("harul", "\u296a"), ("hblk", "\u2584"), ("jcy", "\u0459"),
    ("l", "\u226a"), ("larr", "\u21c7"), ("lcorner", "\u231e"), ("lhard", "\u296b"), ("ltri", "\u25fa"),
    ("midot", "\u0140"), ("moust", "\u23b0"), ("moustache", "\u23b0"), ("nE", "\u2268"), ("nap", "\u2a89"),
    ("napprox", "\u2a89"), ("ne", "\u2a87"), ("neq", "\u2a87"), ("neqq", "\u2268"), ("nsim", "\u22e6"),
    ("oang", "\u27ec"), ("oarr", "\u21fd"), ("obrk", "\u27e6"), ("ongleftarrow", "\u27f5"), ("ongleftrightarrow", "\u27f7"),
    ("ongmapsto", "\u27fc"), ("ongrightarrow", "\u27f6"), ("ooparrowleft", "\u21ab"), ("ooparrowright", "\u21ac"), ("opar", "\u2985"),
    ("opf", "𝕝"), ("oplus", "\u2a2d"), ("otimes", "\u2a34"), ("owast", "\u2217"), ("owbar", "_"),
    ("oz", "\u25ca"), ("ozenge", "\u25ca"), ("ozf", "\u29eb"), ("par", "("), ("parlt", "\u2993"),
    ("rarr", "\u21c6"), ("rcorner", "\u231f"), ("rhar", "\u21cb"), ("rhard", "\u296d"), ("rm", "\u200e"),
    ("rtri", "\u22bf"), ("saquo", "\u2039"), ("scr", "𝓁"), ("sh", "\u21b0"), ("sim", "\u2272"),
    ("sime", "\u2a8d"), ("simg", "\u2a8f"), ("sqb", "["), ("squo", "\u2018"), ("squor", "\u201a"),
    ("strok", "\u0142"), ("t", "<"), ("tcc", "\u2aa6"), ("tcir", "\u2a79"), ("tdot", "\u22d6"),
    ("three", "\u22cb"), ("times", "\u22c9"), ("tlarr", "\u2976"), ("tquest", "\u2a7b"), ("trPar", "\u2996"),
    ("tri", "\u25c3"), ("trie", "\u22b4"), ("trif", "\u25c2"), ("urdshar", "\u294a"), ("uruhar", "\u2966"),
    ("vertneqq", "\u2268\ufe00"), ("vnE", "\u2268\ufe00")]

def referencesLowerM : List (String × String) := [
    ("DDot", "\u223a"), ("acr", "\xaf"), ("ale", "\u2642"), ("alt", "\u2720"), ("altese", "\u2720"),
    ("ap", "\u21a6"), ("apsto", "\u21a6"), ("apstodown", "\u21a7"), ("apstoleft", "\u21a4"), ("apstoup", "\u21a5"),
    ("arker", "\u25ae"), ("comma", "\u2a29"), ("cy", "\u043c"), ("dash", "\u2014"), ("easuredangle", "\u2221"),
    ("fr", "𝔪"), ("ho", "\u2127"), ("icro", "\xb5"), ("id", "\u2223"), ("idast", "*"),
    ("idcir", "\u2af0"), ("iddot", "\xb7"), ("inus", "\u2212"), ("inusb", "\u229f"), ("inusd", "\u2238"),
    ("inusdu", "\u2a2a"), ("lcp", "\u2adb"), ("ldr", "\u2026"), ("nplus", "\u2213"), ("odels", "\u22a7"),
    ("opf", "𝕞"), ("p", "\u2213"), ("scr", "𝓂"), ("stpos", "\u223e"), ("u", "\u03bc"),
    ("ultimap", "\u22b8"), ("umap", "\u22b8")]

def referencesLowerN : List (String × String) := [
    ("Gg", "\u22d9\u0338"), ("Gt", "\u226b\u20d2"), ("Gtv", "\u226b\u0338"), ("Leftarrow", "\u21cd"), ("Leftrightarrow", "\u21ce"),
    ("Ll", "\u22d8\u0338"), ("Lt", "\u226a\u20d2"), ("Ltv", "\u226a\u0338"), ("Rightarrow", "\u21cf"), ("VDash", "\u22af"),
    ("Vdash", "\u22ae"), ("abla", "\u2207"), ("acute", "\u0144"), ("ang", "\u2220\u20d2"), ("ap", "\u2249"),
    ("apE", "\u2a70\u0338"), ("apid", "\u224b\u0338"), ("apos", "\u0149"), ("approx", "\u2249"), ("atur", "\u266e"),
    ("atural", "\u266e"), ("aturals", "\u2115"), ("bsp", "\xa0"), ("bump", "\u224e\u0338"), ("bumpe", "\u224f\u0338"),
    ("cap", "\u2a43"), ("caron", "\u0148"), ("cedil", "\u0146"), ("cong", "\u2247"), ("congdot", "\u2a6d\u0338"),
    ("cup", "\u2a42"), ("cy", "\u043d"), ("dash", "\u2013"), ("e", "\u2260"), ("eArr", "\u21d7"),
    ("earhk", "\u2924"), ("earr", "\u2197"), ("earrow", "\u2197"), ("edot", "\u2250\u0338"), ("equiv", "\u2262"),
    ("esear", "\u2928"), ("esim", "\u2242\u0338"), ("exist", "\u2204"), ("exists", "\u2204"), ("fr", "𝔫"),
    ("gE", "\u2267\u0338"), ("ge", "\u2271"), ("geq", "\u2271"), ("geqq", "\u2267\u0338"), ("geqslant", "\u2a7e\u0338"),
    ("ges", "\u2a7e\u0338"), ("gsim", "\u2275"), ("gt", "\u226f"), ("gtr", "\u226f"), ("hArr", "\u21ce"),
    ("harr", "\u21ae"), ("hpar", "\u2af2"), ("i", "\u220b"), ("is", "\u22fc"), ("isd", "\u22fa"),
    ("iv", "\u220b"), ("jcy", "\u045a"), ("lArr", "\u21cd"), ("lE", "\u2266\u0338"), ("larr", "\u219a"),
    ("ldr", "\u2025"), ("le", "\u2270"), ("leftarrow", "\u219a"), ("leftrightarrow", "\u21ae"), ("leq", "\u2270"),
    ("leqq", "\u2266\u0338"), ("leqslant", "\u2a7d\u0338"), ("les", "\u2a7d\u0338"), ("less", "\u226e"), ("lsim", "\u2274"),
    ("lt", "\u226e"), ("ltri", "\u22ea"), ("ltrie", "\u22ec"), ("mid", "\u2224"), ("opf", "𝕟"),
    ("ot", "\xac"), ("otin", "\u2209"), ("otinE", "\u22f9\u0338"), ("otindot", "\u22f5\u0338"), ("otinva", "\u2209"),
    ("otinvb", "\u22f7"), ("otinvc", "\u22f6"), ("otni", "\u220c"), ("otniva", "\u220c"), ("otnivb", "\u22fe"),
    ("otnivc", "\u22fd"), ("par", "\u2226"), ("parallel", "\u2226"), ("parsl", "\u2afd\u20e5"), ("part", "\u2202\u0338"),
    ("polint", "\u2a14"), ("pr", "\u2280"), ("prcue", "\u22e0"), ("pre", "\u2aaf\u0338"), ("prec", "\u2280"),
    ("preceq", "\u2aaf\u0338"), ("rArr", "\u21cf"), ("rarr", "\u219b"), ("rarrc", "\u2933\u0338"), ("rarrw", "\u219d\u0338"),
    ("rightarrow", "\u219b"), ("rtri", "\u22eb"), ("rtrie", "\u22ed"), ("sc", "\u2281"), ("sccue", "\u22e1"),
    ("sce", "\u2ab0\u0338"), ("scr", "𝓃"), ("shortmid", "\u2224"), ("shortparallel", "\u2226"), ("sim", "\u2241"),
    ("sime", "\u2244"), ("simeq", "\u2244"), ("smid", "\u2224"), ("spar", "\u2226"), ("sqsube", "\u22e2"),
    ("sqsupe", "\u22e3"), ("sub", "\u2284"), ("subE", "\u2ac5\u0338"), ("sube", "\u2288"), ("subset", "\u2282\u20d2"),
    ("subseteq", "\u2288"), ("subseteqq", "\u2ac5\u0338"), ("succ", "\u2281"), ("succeq", "\u2ab0\u0338"), ("sup", "\u2285"),
    ("supE", "\u2ac6\u0338"), ("supe", "\u2289"), ("supset", "\u2283\u20d2"), ("supseteq", "\u2289"), ("supseteqq", "\u2ac6\u0338"),
    ("tgl", "\u2279"), ("tilde", "\xf1"), ("tlg", "\u2278"), ("triangleleft", "\u22ea"), ("trianglelefteq", "\u22ec"),
    ("triangleright", "\u22eb"), ("trianglerighteq", "\u22ed"), ("u", "\u03bd"), ("um", "#"), ("umero", "\u2116"),
    ("umsp", "\u2007"), ("vDash", "\u22ad"), ("vHarr", "\u2904"), ("vap", "\u224d\u20d2"), ("vdash", "\u22ac"),
    ("vge", "\u2265\u20d2"), ("vgt", ">\u20d2"), ("vinfin", "\u29de"), ("vlArr", "\u2902"), ("vle", "\u2264\u20d2"),
    ("vlt", "<\u20d2"), ("vltrie", "\u22b4\u20d2"), ("vrArr", "\u2903"), ("vrtrie", "\u22b5\u20d2"), ("vsim", "\u223c\u20d2"),
    ("wArr", "\u21d6"), ("warhk", "\u2923"), ("warr", "\u2196"), ("warrow", "\u2196"), ("wnear", "\u2927")]

def referencesLowerO : List (String × String) := [
    ("S", "\u24c8"), ("acute", "\xf3"), ("ast", "\u229b"), ("cir", "\u229a"), ("circ", "\xf4"),
    ("cy", "\u043e"), ("dash", "\u229d"), ("dblac", "\u0151"), ("div", "\u2a38"), ("dot", "\u2299"),
    ("dsold", "\u29bc"), ("elig", "\u0153"), ("fcir", "\u29bf"), ("fr", "𝔬"), ("gon", "\u02db"),
    ("grave", "\xf2"), ("gt", "\u29c1"), ("hbar", "\u29b5"), ("hm", "\u03a9"), ("int", "\u222e"),
    ("larr", "\u21ba"), ("lcir", "\u29be"), ("lcross", "\u29bb"), ("line", "\u203e"), ("lt", "\u29c0"),
    ("macr", "\u014d"), ("mega", "\u03c9"), ("micron", "\u03bf"), ("mid", "\u29b6"), ("minus", "\u2296"),
    ("opf", "𝕠"), ("par", "\u29b7"), ("perp", "\u29b9"), ("plus", "\u2295"), ("r", "\u2228"),
    ("rarr", "\u21bb"), ("rd", "\u2a5d"), ("rder", "\u2134"), ("rderof", "\u2134"), ("rdf", "\xaa"),
    ("rdm", "\xba"), ("rigof", "\u22b6"), ("ror", "\u2a56"), ("rslope", "\u2a57"), ("rv", "\u2a5b"),
    ("scr", "\u2134"), ("slash", "\xf8"), ("sol", "\u2298"), ("tilde", "\xf5"), ("times", "\u2297"),
    ("timesas", "\u2a36"), ("uml", "\xf6"), ("vbar", "\u233d")]

def referencesLowerP : List (String × String) := [
    ("ar", "\u2225"), ("ara", "\xb6"), ("arallel", "\u2225"), ("arsim", "\u2af3"), ("arsl", "\u2afd"),
    ("art", "\u2202"), ("cy", "\u043f"), ("ercnt", "%"), ("eriod", "."), ("ermil", "\u2030"),
    ("erp", "\u22a5"), ("ertenk", "\u2031"), ("fr", "𝔭"), ("hi", "\u03c6"), ("hiv", "\u03d5"),
    ("hmmat", "\u2133"), ("hone", "\u260e"), ("i", "\u03c0"), ("itchfork", "\u22d4"), ("iv", "\u03d6"),
    ("lanck", "\u210f"), ("lanckh", "\u210e"), ("lankv", "\u210f"), ("lus", "+"), ("lusacir", "\u2a23"),
    ("lusb", "\u229e"), ("luscir", "\u2a22"), ("lusdo", "\u2214"), ("lusdu", "\u2a25"), ("luse", "\u2a72"),
    ("lusmn", "\xb1"), ("lussim", "\u2a26"), ("lustwo", "\u2a27"), ("m", "\xb1"), ("ointint", "\u2a15"),
    ("opf", "𝕡"), ("ound", "\xa3"), ("r", "\u227a"), ("rE", "\u2ab3"), ("rap", "\u2ab7"),
    ("rcue", "\u227c"), ("re", "\u2aaf"), ("rec", "\u227a"), ("recapprox", "\u2ab7"), ("reccurlyeq", "\u227c"),
    ("receq", "\u2aaf"), ("recnapprox", "\u2ab9"), ("recneqq", "\u2ab5"), ("recnsim", "\u22e8"), ("recsim", "\u227e"),
    ("rime", "\u2032"), ("rimes", "\u2119"), ("rnE", "\u2ab5"), ("rnap", "\u2ab9"), ("rnsim", "\u22e8"),
    ("rod", "\u220f"), ("rofalar", "\u232e"), ("rofline", "\u2312"), ("rofsurf", "\u2313"), ("rop", "\u221d"),
    ("ropto", "\u221d"), ("rsim", "\u227e"), ("rurel", "\u22b0"), ("scr", "𝓅"), ("si", "\u03c8"),
    ("uncsp", "\u2008")]

def referencesLowerQ : List (String × String) := [
    ("fr", "𝔮"), ("int", "\u2a0c"), ("opf", "𝕢"), ("prime", "\u2057"), ("scr", "𝓆"),
    ("uaternions", "\u210d"), ("uatint", "\u2a16"), ("uest", "?"), ("uesteq", "\u225f"), ("uot", "\"")]

def referencesLowerR : List (String × String) := [
    ("Aarr", "\u21db"), ("Arr", "\u21d2"), ("Atail", "\u291c"), ("Barr", "\u290f"), ("Har", "\u2964"),
    ("ace", "\u223d\u0331"), ("acute", "\u0155"), ("adic", "\u221a"), ("aemptyv", "\u29b3"), ("ang", "\u27e9"),
    ("angd", "\u2992"), ("ange", "\u29a5"), ("angle", "\u27e9"), ("aquo", "\xbb"), ("arr", "\u2192"),
    ("arrap", "\u2975"), ("arrb", "\u21e5"), ("arrbfs", "\u2920"), ("arrc", "\u2933"), ("arrfs", "\u291e"),
    ("arrhk", "\u21aa"), ("arrlp", "\u21ac"), ("arrpl", "\u2945"), ("arrsim", "\u2974"), ("arrtl", "\u21a3"),
    ("arrw", "\u219d"), ("atail", "\u291a"), ("atio", "\u2236"), ("ationals", "\u211a"), ("barr", "\u290d"),
    ("bbrk", "\u2773"), ("brace", "\x7d"), ("brack", "]"), ("brke", "\u298c"), ("brksld", "\u298e"),
    ("brkslu", "\u2990"), ("caron", "\u0159"), ("cedil", "\u0157"), ("ceil", "\u2309"), ("cub", "\x7d"),
    ("cy", "\u0440"), ("dca", "\u2937"), ("dldhar", "\u2969"), ("dquo", "\u201d"), ("dquor", "\u201d"),
    ("dsh", "\u21b3"), ("eal", "\u211c"), ("ealine", "\u211b"), ("ealpart", "\u211c"), ("eals", "\u211d"),
    ("ect", "\u25ad"), ("eg", "\xae"), ("fisht", "\u297d"), ("floor", "\u230b"), ("fr", "𝔯"),
    ("hard", "\u21c1"), ("haru", "\u21c0"), ("harul", "\u296c"), ("ho", "\u03c1"), ("hov", "\u03f1"),
    ("ightarrow", "\u2192"), ("ightarrowtail", "\u21a3"), ("ightharpoondown", "\u21c1"), ("ightharpoonup", "\u21c0"), ("ightleftarrows", "\u21c4"),
    ("ightleftharpoons", "\u21cc"), ("ightrightarrows", "\u21c9"), ("ightsquigarrow", "\u219d"), ("ightthreetimes", "\u22cc"), ("ing", "\u02da"),
    ("isingdotseq", "\u2253"), ("larr", "\u21c4"), ("lhar", "\u21cc"), ("lm", "\u200f"), ("moust", "\u23b1"),
    ("moustache", "\u23b1"), ("nmid", "\u2aee"), ("oang", "\u27ed"), ("oarr", "\u21fe"), ("obrk", "\u27e7"),
    ("opar", "\u2986"), ("opf", "𝕣"), ("oplus", "\u2a2e"), ("otimes", "\u2a35"), ("par", ")"),
    ("pargt", "\u2994"), ("ppolint", "\u2a12"), ("rarr", "\u21c9"), ("saquo", "\u203a"), ("scr", "𝓇"),
    ("sh", "\u21b1"), ("sqb", "]"), ("squo", "\u2019"), ("squor", "\u2019"), ("three", "\u22cc"),
    ("times", "\u22ca"), ("tri", "\u25b9"), ("trie", "\u22b5"), ("trif", "\u25b8"), ("triltri", "\u29ce"),
    ("uluhar", "\u2968"), ("x", "\u211e")]

def referencesLowerS : List (String × String) := [
    ("acute", "\u015b"), ("bquo", "\u201a"), ("c", "\u227b"), ("cE", "\u2ab4"), ("cap", "\u2ab8"),
    ("caron", "\u0161"), ("ccue", "\u227d"), ("ce", "\u2ab0"), ("cedil", "\u015f"), ("circ", "\u015d"),
    ("cnE", "\u2ab6"), ("cnap", "\u2aba"), ("cnsim", "\u22e9"), ("cpolint", "\u2a13"), ("csim", "\u227f"),
    ("cy", "\u0441"), ("dot", "\u22c5"), ("dotb", "\u22a1"), ("dote", "\u2a66"), ("eArr", "\u21d8"),
    ("earhk", "\u2925"), ("earr", "\u2198"), ("earrow", "\u2198"), ("ect", "\xa7"), ("emi", ";"),
    ("eswar", "\u2929"), ("etminus", "\u2216"), ("etmn", "\u2216"), ("ext", "\u2736"), ("fr", "𝔰"),
    ("frown", "\u2322"), ("harp", "\u266f"), ("hchcy", "\u0449"), ("hcy", "\u0448"), ("hortmid", "\u2223"),
    ("hortparallel", "\u2225"), ("hy", "\xad"), ("igma", "\u03c3"), ("igmaf", "\u03c2"), ("igmav", "\u03c2"),
    ("im", "\u223c"), ("imdot", "\u2a6a"), ("ime", "\u2243"), ("imeq", "\u2243"), ("img", "\u2a9e"),
    ("imgE", "\u2aa0"), ("iml", "\u2a9d"), ("imlE", "\u2a9f"), ("imne", "\u2246"), ("implus", "\u2a24"),
    ("imrarr", "\u2972"), ("larr", "\u2190"), ("mallsetminus", "\u2216"), ("mashp", "\u2a33"), ("meparsl", "\u29e4"),
    ("mid", "\u2223"), ("mile", "\u2323"), ("mt", "\u2aaa"), ("mte", "\u2aac"), ("mtes", "\u2aac\ufe00"),
    ("oftcy", "\u044c"), ("ol", "/"), ("olb", "\u29c4"), ("olbar", "\u233f"), ("opf", "𝕤"),
    ("pades", "\u2660"), ("padesuit", "\u2660"), ("par", "\u2225"), ("qcap", "\u2293"), ("qcaps", "\u2293\ufe00"),
    ("qcup", "\u2294"), ("qcups", "\u2294\ufe00"), ("qsub", "\u228f"), ("qsube", "\u2291"), ("qsubset", "\u228f"),
    ("qsubseteq", "\u2291"), ("qsup", "\u2290"), ("qsupe", "\u2292"), ("qsupset", "\u2290"), ("qsupseteq", "\u2292"),
    ("qu", "\u25a1"), ("quare", "\u25a1"), ("quarf", "\u25aa"), ("quf", "\u25aa"), ("rarr", "\u2192"),
    ("scr", "𝓈"), ("setmn", "\u2216"), ("smile", "\u2323"), ("starf", "\u22c6"), ("tar", "\u2606"),
    ("tarf", "\u2605"), ("traightepsilon", "\u03f5"), ("traightphi", "\u03d5"), ("trns", "\xaf"), ("ub", "\u2282"),
    ("ubE", "\u2ac5"), ("ubdot", "\u2abd"), ("ube", "\u2286"), ("ubedot", "\u2ac3"), ("ubmult", "\u2ac1"),
    ("ubnE", "\u2acb"), ("ubne", "\u228a"), ("ubplus", "\u2abf"), ("ubrarr", "\u2979"), ("ubset", "\u2282"),
    ("ubseteq", "\u2286"), ("ubseteqq", "\u2ac5"), ("ubsetneq", "\u228a"), ("ubsetneqq", "\u2acb"), ("ubsim", "\u2ac7"),
    ("ubsub", "\u2ad5"), ("ubsup", "\u2ad3"), ("ucc", "\u227b"), ("uccapprox", "\u2ab8"), ("ucccurlyeq", "\u227d"),
    ("ucceq", "\u2ab0"), ("uccnapprox", "\u2aba"), ("uccneqq", "\u2ab6"), ("uccnsim", "\u22e9"), ("uccsim", "\u227f"),
    ("um", "\u2211"), ("ung", "\u266a"), ("up", "\u2283"), ("up1", "\xb9"), ("up2", "\xb2"),
    ("up3", "\xb3"), ("upE", "\u2ac6"), ("updot", "\u2abe"), ("updsub", "\u2ad8"), ("upe", "\u2287"),
    ("upedot", "\u2ac4"), ("uphsol", "\u27c9"), ("uphsub", "\u2ad7"), ("uplarr", "\u297b"), ("upmult", "\u2ac2"),
    ("upnE", "\u2acc"), ("upne", "\u228b"), ("upplus", "\u2ac0"), ("upset", "\u2283"), ("upseteq", "\u2287"),
    ("upseteqq", "\u2ac6"), ("upsetneq", "\u228b"), ("upsetneqq", "\u2acc"), ("upsim", "\u2ac8"), ("upsub", "\u2ad4"),
    ("upsup", "\u2ad6"), ("wArr", "\u21d9"), ("warhk", "\u2926"), ("warr", "\u2199"), ("warrow", "\u2199"),
    ("wnwar", "\u292a"), ("zlig", "\xdf")]

def referencesLowerT : List (String × String) := [
    ("arget", "\u2316"), ("au", "\u03c4"), ("brk", "\u23b4"), ("caron", "\u0165"), ("cedil", "\u0163"),
    ("cy", "\u0442"), ("dot", "\u20db"), ("elrec", "\u2315"), ("fr", "𝔱"), ("here4", "\u2234"),
    ("herefore", "\u2234"), ("heta", "\u03b8"), ("hetasym", "\u03d1"), ("hetav", "\u03d1"), ("hickapprox", "\u2248"),
    ("hicksim", "\u223c"), ("hinsp", "\u2009"), ("hkap", "\u2248"), ("hksim", "\u223c"), ("horn", "\xfe"),
    ("ilde", "\u02dc"), ("imes", "\xd7"), ("imesb", "\u22a0"), ("imesbar", "\u2a31"), ("imesd", "\u2a30"),
    ("int", "\u222d"), ("oea", "\u2928"), ("op", "\u22a4"), ("opbot", "\u2336"), ("opcir", "\u2af1"),
    ("opf", "𝕥"), ("opfork", "\u2ada"), ("osa", "\u2929"), ("prime", "\u2034"), ("rade", "\u2122"),
    ("riangle", "\u25b5"), ("riangledown", "\u25bf"), ("riangleleft", "\u25c3"), ("rianglelefteq", "\u22b4"), ("riangleq", "\u225c"),
    ("riangleright", "\u25b9"), ("rianglerighteq", "\u22b5"), ("ridot", "\u25ec"), ("rie", "\u225c"), ("riminus", "\u2a3a"),
    ("riplus", "\u2a39"), ("risb", "\u29cd"), ("ritime", "\u2a3b"), ("rpezium", "\u23e2"), ("scr", "𝓉"),
    ("scy", "\u0446"), ("shcy", "\u045b"), ("strok", "\u0167"), ("wixt", "\u226c"), ("woheadleftarrow", "\u219e"),
    ("woheadrightarrow", "\u21a0")]

def referencesLowerU : List (String × String) := [
    ("Arr", "\u21d1"), ("Har", "\u2963"), ("acute", "\xfa"), ("arr", "\u2191"), ("brcy", "\u045e"),
    ("breve", "\u016d"), ("circ", "\xfb"), ("cy", "\u0443"), ("darr", "\u21c5"), ("dblac", "\u0171"),
    ("dhar", "\u296e"), ("fisht", "\u297e"), ("fr", "𝔲"), ("grave", "\xf9"), ("harl", "\u21bf"),
    ("harr", "\u21be"), ("hblk", "\u2580"), ("lcorn", "\u231c"), ("lcorner", "\u231c"), ("lcrop", "\u230f"),
    ("ltri", "\u25f8"), ("macr", "\u016b"), ("ml", "\xa8"), ("ogon", "\u0173"), ("opf", "𝕦"),
    ("parrow", "\u2191"), ("pdownarrow", "\u2195"), ("pharpoonleft", "\u21bf"), ("pharpoonright", "\u21be"), ("plus", "\u228e"),
    ("psi", "\u03c5"), ("psih", "\u03d2"), ("psilon", "\u03c5"), ("puparrows", "\u21c8"), ("rcorn", "\u231d"),
    ("rcorner", "\u231d"), ("rcrop", "\u230e"), ("ring", "\u016f"), ("rtri", "\u25f9"), ("scr", "𝓊"),
    ("tdot", "\u22f0"), ("tilde", "\u0169"), ("tri", "\u25b5"), ("trif", "\u25b4"), ("uarr", "\u21c8"),
    ("uml", "\xfc"), ("wangle", "\u29a7")]

def referencesLowerV : List (String × String) := [
    ("Arr", "\u21d5"), ("Bar", "\u2ae8"), ("Barv", "\u2ae9"), ("Dash", "\u22a8"), ("angrt", "\u299c"),
    ("arepsilon", "\u03f5"), ("arkappa", "\u03f0"), ("arnothing", "\u2205"), ("arphi", "\u03d5"), ("arpi", "\u03d6"),
    ("arpropto", "\u221d"), ("arr", "\u2195"), ("arrho", "\u03f1"), ("arsigma", "\u03c2"), ("arsubsetneq", "\u228a\ufe00"),
    ("arsubsetneqq", "\u2acb\ufe00"), ("arsupsetneq", "\u228b\ufe00"), ("arsupsetneqq", "\u2acc\ufe00"), ("artheta", "\u03d1"), ("artriangleleft", "\u22b2"),
    ("artriangleright", "\u22b3"), ("cy", "\u0432"), ("dash", "\u22a2"), ("ee", "\u2228"), ("eebar", "\u22bb"),
    ("eeeq", "\u225a"), ("ellip", "\u22ee"), ("erbar", "|"), ("ert", "|"), ("fr", "𝔳"),
    ("ltri", "\u22b2"), ("nsub", "\u2282\u20d2"), ("nsup", "\u2283\u20d2"), ("opf", "𝕧"), ("prop", "\u221d"),
    ("rtri", "\u22b3"), ("scr", "𝓋"), ("subnE", "\u2acb\ufe00"), ("subne", "\u228a\ufe00"), ("supnE", "\u2acc\ufe00"),
    ("supne", "\u228b\ufe00"), ("zigzag", "\u299a")]

def referencesLowerW : List (String × String) := [
    ("circ", "\u0175"), ("edbar", "\u2a5f"), ("edge", "\u2227"), ("edgeq", "\u2259"), ("eierp", "\u2118"),
    ("fr", "𝔴"), ("opf", "𝕨"), ("p", "\u2118"), ("r", "\u2240"), ("reath", "\u2240"),
    ("scr", "𝓌")]

def referencesLowerX : List (String × String) := [
    ("cap", "\u22c2"), ("circ", "\u25ef"), ("cup", "\u22c3"), ("dtri", "\u25bd"), ("fr", "𝔵"),
    ("hArr", "\u27fa"), ("harr", "\u27f7"), ("i", "\u03be"), ("lArr", "\u27f8"), ("larr", "\u27f5"),
    ("map", "\u27fc"), ("nis", "\u22fb"), ("odot", "\u2a00"), ("opf", "𝕩"), ("oplus", "\u2a01"),
    ("otime", "\u2a02"), ("rArr", "\u27f9"), ("rarr", "\u27f6"), ("scr", "𝓍"), ("sqcup", "\u2a06"),
    ("uplus", "\u2a04"), ("utri", "\u25b3"), ("vee", "\u22c1"), ("wedge", "\u22c0")]

def referencesLowerY : List (String × String) := [
    ("acute", "\xfd"), ("acy", "\u044f"), ("circ", "\u0177"), ("cy", "\u044b"), ("en", "\xa5"),
    ("fr", "𝔶"), ("icy", "\u0457"), ("opf", "𝕪"), ("scr", "𝓎"), ("ucy", "\u044e"),
    ("uml", "\xff")]

def referencesLowerZ : List (String × String) := [
    ("acute", "\u017a"), ("caron", "\u017e"), ("cy", "\u0437"), ("dot", "\u017c"), ("eetrf", "\u2128"),
    ("eta", "\u03b6"), ("fr", "𝔷"), ("hcy", "\u0436"), ("igrarr", "\u21dd"), ("opf", "𝕫"),
    ("scr", "𝓏"), ("wj", "\u200d"), ("wnj", "\u200c")]

/-- The references whose names begin with the letter. -/
def referencesFrom : Char → List (String × String)
  | 'A' => referencesUpperA
  | 'B' => referencesUpperB
  | 'C' => referencesUpperC
  | 'D' => referencesUpperD
  | 'E' => referencesUpperE
  | 'F' => referencesUpperF
  | 'G' => referencesUpperG
  | 'H' => referencesUpperH
  | 'I' => referencesUpperI
  | 'J' => referencesUpperJ
  | 'K' => referencesUpperK
  | 'L' => referencesUpperL
  | 'M' => referencesUpperM
  | 'N' => referencesUpperN
  | 'O' => referencesUpperO
  | 'P' => referencesUpperP
  | 'Q' => referencesUpperQ
  | 'R' => referencesUpperR
  | 'S' => referencesUpperS
  | 'T' => referencesUpperT
  | 'U' => referencesUpperU
  | 'V' => referencesUpperV
  | 'W' => referencesUpperW
  | 'X' => referencesUpperX
  | 'Y' => referencesUpperY
  | 'Z' => referencesUpperZ
  | 'a' => referencesLowerA
  | 'b' => referencesLowerB
  | 'c' => referencesLowerC
  | 'd' => referencesLowerD
  | 'e' => referencesLowerE
  | 'f' => referencesLowerF
  | 'g' => referencesLowerG
  | 'h' => referencesLowerH
  | 'i' => referencesLowerI
  | 'j' => referencesLowerJ
  | 'k' => referencesLowerK
  | 'l' => referencesLowerL
  | 'm' => referencesLowerM
  | 'n' => referencesLowerN
  | 'o' => referencesLowerO
  | 'p' => referencesLowerP
  | 'q' => referencesLowerQ
  | 'r' => referencesLowerR
  | 's' => referencesLowerS
  | 't' => referencesLowerT
  | 'u' => referencesLowerU
  | 'v' => referencesLowerV
  | 'w' => referencesLowerW
  | 'x' => referencesLowerX
  | 'y' => referencesLowerY
  | 'z' => referencesLowerZ
  | _ => []

/-- The names that are read in attribute values also without their semicolon. -/
def unterminatedNames : List String := [
    "AElig", "AMP", "Aacute", "Acirc", "Agrave", "Aring", "Atilde", "Auml", "COPY", "Ccedil",
    "ETH", "Eacute", "Ecirc", "Egrave", "Euml", "GT", "Iacute", "Icirc", "Igrave", "Iuml",
    "LT", "Ntilde", "Oacute", "Ocirc", "Ograve", "Oslash", "Otilde", "Ouml", "QUOT", "REG",
    "THORN", "Uacute", "Ucirc", "Ugrave", "Uuml", "Yacute", "aacute", "acirc", "acute", "aelig",
    "agrave", "amp", "aring", "atilde", "auml", "brvbar", "ccedil", "cedil", "cent", "copy",
    "curren", "deg", "divide", "eacute", "ecirc", "egrave", "eth", "euml", "frac12", "frac14",
    "frac34", "gt", "iacute", "icirc", "iexcl", "igrave", "iquest", "iuml", "laquo", "lt",
    "macr", "micro", "middot", "nbsp", "not", "ntilde", "oacute", "ocirc", "ograve", "ordf",
    "ordm", "oslash", "otilde", "ouml", "para", "plusmn", "pound", "quot", "raquo", "reg",
    "sect", "shy", "sup1", "sup2", "sup3", "szlig", "thorn", "times", "uacute", "ucirc",
    "ugrave", "uml", "uuml", "yacute", "yen", "yuml"]

end Componentry.Markup
