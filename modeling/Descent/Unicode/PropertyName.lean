import Descent.Unicode.Cases
import Descent.Unicode.Formats
import Descent.Unicode.Letters
import Descent.Unicode.Marks
import Descent.Unicode.Symbols

set_option autoImplicit false

/-!
The names of properties and of their values, in lower case and without blanks, hyphens and low lines.
-/

namespace Descent.Unicode

/-- A value of a property as tables write it, and the names by which it is asked for. -/
structure NamedValue where
  value : String
  names : List String
  deriving Repr

/-- Reads words `value=name,name`. -/
def readNamedValues (rows : List String) : List NamedValue :=
  (wordsOf rows).filterMap fun word =>
    match partsOf '=' word with
    | [value, names] => some ⟨value, partsOf ',' names⟩
    | _ => none

/-- The general categories and their groups, with plus signs between the members of a group. -/
def categoryNames : List NamedValue := readNamedValues
  ["Lu=lu,uppercaseletter Ll=ll,lowercaseletter Lt=lt,titlecaseletter Lm=lm,modifierletter",
   "Lo=lo,otherletter Mn=mn,nonspacingmark Mc=mc,spacingmark Me=me,enclosingmark",
   "Nd=nd,decimalnumber,digit Nl=nl,letternumber No=no,othernumber Pc=pc,connectorpunctuation",
   "Pd=pd,dashpunctuation Ps=ps,openpunctuation Pe=pe,closepunctuation Pi=pi,initialpunctuation",
   "Pf=pf,finalpunctuation Po=po,otherpunctuation Sm=sm,mathsymbol Sc=sc,currencysymbol",
   "Sk=sk,modifiersymbol So=so,othersymbol Zs=zs,spaceseparator Zl=zl,lineseparator",
   "Zp=zp,paragraphseparator Cc=cc,control,cntrl Cf=cf,format Co=co,privateuse Cn=cn,unassigned",
   "Lu+Ll+Lt=lc,casedletter Lu+Ll+Lt+Lm+Lo=l,letter Mn+Mc+Me=m,mark,combiningmark",
   "Nd+Nl+No=n,number Pc+Pd+Ps+Pe+Pi+Pf+Po=p,punctuation,punct Sm+Sc+Sk+So=s,symbol",
   "Zs+Zl+Zp=z,separator Cc+Cf+Co+Cn=c,other"]

/-- The scripts by their codes. -/
def scriptNames : List NamedValue := readNamedValues
  ["Adlm=adlm,adlam Aghb=aghb,caucasianalbanian Ahom=ahom Arab=arab,arabic",
   "Armi=armi,imperialaramaic Armn=armn,armenian Avst=avst,avestan Bali=bali,balinese",
   "Bamu=bamu,bamum Bass=bass,bassavah Batk=batk,batak Beng=beng,bengali Berf=berf,beriaerfe",
   "Bhks=bhks,bhaiksuki Bopo=bopo,bopomofo Brah=brah,brahmi Brai=brai,braille Bugi=bugi,buginese",
   "Buhd=buhd,buhid Cakm=cakm,chakma Cans=cans,canadianaboriginal Cari=cari,carian Cham=cham",
   "Cher=cher,cherokee Chrs=chrs,chorasmian Copt=copt,coptic,qaac Cpmn=cpmn,cyprominoan",
   "Cprt=cprt,cypriot Cyrl=cyrl,cyrillic Deva=deva,devanagari Diak=diak,divesakuru",
   "Dogr=dogr,dogra Dsrt=dsrt,deseret Dupl=dupl,duployan Egyp=egyp,egyptianhieroglyphs",
   "Elba=elba,elbasan Elym=elym,elymaic Ethi=ethi,ethiopic Gara=gara,garay Geor=geor,georgian",
   "Glag=glag,glagolitic Gong=gong,gunjalagondi Gonm=gonm,masaramgondi Goth=goth,gothic",
   "Gran=gran,grantha Grek=grek,greek Gujr=gujr,gujarati Gukh=gukh,gurungkhema",
   "Guru=guru,gurmukhi Hang=hang,hangul Hani=hani,han Hano=hano,hanunoo Hatr=hatr,hatran",
   "Hebr=hebr,hebrew Hira=hira,hiragana Hluw=hluw,anatolianhieroglyphs Hmng=hmng,pahawhhmong",
   "Hmnp=hmnp,nyiakengpuachuehmong Hung=hung,oldhungarian Ital=ital,olditalic Java=java,javanese",
   "Kali=kali,kayahli Kana=kana,katakana Kawi=kawi Khar=khar,kharoshthi Khmr=khmr,khmer",
   "Khoj=khoj,khojki Kits=kits,khitansmallscript Knda=knda,kannada Krai=krai,kiratrai",
   "Kthi=kthi,kaithi Lana=lana,taitham Laoo=laoo,lao Latn=latn,latin Lepc=lepc,lepcha",
   "Limb=limb,limbu Lina=lina,lineara Linb=linb,linearb Lisu=lisu Lyci=lyci,lycian",
   "Lydi=lydi,lydian Mahj=mahj,mahajani Maka=maka,makasar Mand=mand,mandaic Mani=mani,manichaean",
   "Marc=marc,marchen Medf=medf,medefaidrin Mend=mend,mendekikakui Merc=merc,meroiticcursive",
   "Mero=mero,meroitichieroglyphs Mlym=mlym,malayalam Modi=modi Mong=mong,mongolian",
   "Mroo=mroo,mro Mtei=mtei,meeteimayek Mult=mult,multani Mymr=mymr,myanmar Nagm=nagm,nagmundari",
   "Nand=nand,nandinagari Narb=narb,oldnortharabian Nbat=nbat,nabataean Newa=newa Nkoo=nkoo,nko",
   "Nshu=nshu,nushu Ogam=ogam,ogham Olck=olck,olchiki Onao=onao,olonal Orkh=orkh,oldturkic",
   "Orya=orya,oriya Osge=osge,osage Osma=osma,osmanya Ougr=ougr,olduyghur Palm=palm,palmyrene",
   "Pauc=pauc,paucinhau Perm=perm,oldpermic Phag=phag,phagspa Phli=phli,inscriptionalpahlavi",
   "Phlp=phlp,psalterpahlavi Phnx=phnx,phoenician Plrd=plrd,miao Prti=prti,inscriptionalparthian",
   "Rjng=rjng,rejang Rohg=rohg,hanifirohingya Runr=runr,runic Samr=samr,samaritan",
   "Sarb=sarb,oldsoutharabian Saur=saur,saurashtra Sgnw=sgnw,signwriting Shaw=shaw,shavian",
   "Shrd=shrd,sharada Sidd=sidd,siddham Sidt=sidt,sidetic Sind=sind,khudawadi Sinh=sinh,sinhala",
   "Sogd=sogd,sogdian Sogo=sogo,oldsogdian Sora=sora,sorasompeng Soyo=soyo,soyombo",
   "Sund=sund,sundanese Sunu=sunu,sunuwar Sylo=sylo,sylotinagri Syrc=syrc,syriac",
   "Tagb=tagb,tagbanwa Takr=takr,takri Tale=tale,taile Talu=talu,newtailue Taml=taml,tamil",
   "Tang=tang,tangut Tavt=tavt,taiviet Tayo=tayo,taiyo Telu=telu,telugu Tfng=tfng,tifinagh",
   "Tglg=tglg,tagalog Thaa=thaa,thaana Thai=thai Tibt=tibt,tibetan Tirh=tirh,tirhuta",
   "Tnsa=tnsa,tangsa Todr=todr,todhri Tols=tols,tolongsiki Toto=toto Tutg=tutg,tulutigalari",
   "Ugar=ugar,ugaritic Vaii=vaii,vai Vith=vith,vithkuqi Wara=wara,warangciti Wcho=wcho,wancho",
   "Xpeo=xpeo,oldpersian Xsux=xsux,cuneiform Yezi=yezi,yezidi Yiii=yiii,yi",
   "Zanb=zanb,zanabazarsquare Zinh=zinh,inherited,qaai Zyyy=zyyy,common"]

/-- The versions, from the first on. -/
def ageNames : List NamedValue := readNamedValues
  ["1.1=1.1,v11 2.0=2.0,v20 2.1=2.1,v21 3.0=3.0,v30 3.1=3.1,v31 3.2=3.2,v32 4.0=4.0,v40",
   "4.1=4.1,v41 5.0=5.0,v50 5.1=5.1,v51 5.2=5.2,v52 6.0=6.0,v60 6.1=6.1,v61 6.2=6.2,v62",
   "6.3=6.3,v63 7.0=7.0,v70 8.0=8.0,v80 9.0=9.0,v90 10.0=10.0,v100 11.0=11.0,v110 12.0=12.0,v120",
   "12.1=12.1,v121 13.0=13.0,v130 14.0=14.0,v140 15.0=15.0,v150 15.1=15.1,v151 16.0=16.0,v160",
   "17.0=17.0,v170"]

/-- The break classes of grapheme clusters. -/
def graphemeBreakNames : List NamedValue := readNamedValues
  ["CN=cn,control CR=cr EX=ex,extend L=l LF=lf LV=lv LVT=lvt PP=pp,prepend",
   "RI=ri,regionalindicator SM=sm,spacingmark T=t V=v ZWJ=zwj"]

/-- The break classes of words. -/
def wordBreakNames : List NamedValue := readNamedValues
  ["CR=cr DQ=dq,doublequote EX=ex,extendnumlet Extend=extend FO=fo,format HL=hl,hebrewletter",
   "KA=ka,katakana LE=le,aletter LF=lf MB=mb,midnumlet ML=ml,midletter MN=mn,midnum",
   "NL=nl,newline NU=nu,numeric RI=ri,regionalindicator SQ=sq,singlequote WSegSpace=wsegspace",
   "ZWJ=zwj"]

/-- The break classes of sentences. -/
def sentenceBreakNames : List NamedValue := readNamedValues
  ["AT=at,aterm CL=cl,close CR=cr EX=ex,extend FO=fo,format LE=le,oletter LF=lf LO=lo,lower",
   "NU=nu,numeric SC=sc,scontinue SE=se,sep SP=sp ST=st,sterm UP=up,upper"]

/-- The properties that a code point has or has not. -/
def binaryProperties : List (List String × CodeSet) :=
  [(["ahex", "asciihexdigit"], asciiHexDigit),
   (["alpha", "alphabetic"], alphabetic),
   (["bidic", "bidicontrol"], bidiControl),
   (["bidim", "bidimirrored"], bidiMirrored),
   (["ci", "caseignorable"], caseIgnorable),
   (["cased"], cased),
   (["cwcf", "changeswhencasefolded"], changesWhenCasefolded),
   (["cwcm", "changeswhencasemapped"], changesWhenCasemapped),
   (["cwl", "changeswhenlowercased"], changesWhenLowercased),
   (["cwt", "changeswhentitlecased"], changesWhenTitlecased),
   (["cwu", "changeswhenuppercased"], changesWhenUppercased),
   (["dash"], dash),
   (["di", "defaultignorablecodepoint"], defaultIgnorableCodePoint),
   (["dep", "deprecated"], deprecated),
   (["dia", "diacritic"], diacritic),
   (["emoji"], emoji),
   (["ecomp", "emojicomponent"], emojiComponent),
   (["emod", "emojimodifier"], emojiModifier),
   (["ebase", "emojimodifierbase"], emojiModifierBase),
   (["epres", "emojipresentation"], emojiPresentation),
   (["extpict", "extendedpictographic"], extendedPictographic),
   (["ext", "extender"], extender),
   (["grbase", "graphemebase"], graphemeBase),
   (["grext", "graphemeextend"], graphemeExtend),
   (["grlink", "graphemelink"], graphemeLink),
   (["hex", "hexdigit"], hexDigit),
   (["hyphen"], hyphen),
   (["idsb", "idsbinaryoperator"], idsBinaryOperator),
   (["idst", "idstrinaryoperator"], idsTrinaryOperator),
   (["idsu", "idsunaryoperator"], idsUnaryOperator),
   (["idcompatmathcontinue"], idCompatMathContinue),
   (["idcompatmathstart"], idCompatMathStart),
   (["idc", "idcontinue"], idContinue),
   (["ids", "idstart"], idStart),
   (["ideo", "ideographic"], ideographic),
   (["joinc", "joincontrol"], joinControl),
   (["loe", "logicalorderexception"], logicalOrderException),
   (["lower", "lowercase"], lowercase),
   (["math"], math),
   (["mcm", "modifiercombiningmark"], modifierCombiningMark),
   (["nchar", "noncharactercodepoint"], noncharacterCodePoint),
   (["oalpha", "otheralphabetic"], otherAlphabetic),
   (["odi", "otherdefaultignorablecodepoint"], otherDefaultIgnorableCodePoint),
   (["ogrext", "othergraphemeextend"], otherGraphemeExtend),
   (["oidc", "otheridcontinue"], otherIDContinue),
   (["oids", "otheridstart"], otherIDStart),
   (["olower", "otherlowercase"], otherLowercase),
   (["omath", "othermath"], otherMath),
   (["oupper", "otheruppercase"], otherUppercase),
   (["patsyn", "patternsyntax"], patternSyntax),
   (["patws", "patternwhitespace"], patternWhiteSpace),
   (["pcm", "prependedconcatenationmark"], prependedConcatenationMark),
   (["qmark", "quotationmark"], quotationMark),
   (["radical"], radical),
   (["ri", "regionalindicator"], regionalIndicator),
   (["sterm", "sentenceterminal"], sentenceTerminal),
   (["sd", "softdotted"], softDotted),
   (["term", "terminalpunctuation"], terminalPunctuation),
   (["uideo", "unifiedideograph"], unifiedIdeograph),
   (["upper", "uppercase"], uppercase),
   (["vs", "variationselector"], variationSelector),
   (["wspace", "whitespace", "space"], whiteSpace),
   (["xidc", "xidcontinue"], xidContinue),
   (["xids", "xidstart"], xidStart)]

end Descent.Unicode
